import AccountLink.Text.Composed
import AccountLink.Text.Pieces
import AccountLink.Url.Name.Direction
import AccountLink.Url.Name.Joining
import AccountLink.Url.Name.Spelling
import AccountLink.Url.Punycode

-- Names of hosts. `Name.toAscii` reads a name in any spelling and gives its one form in ASCII, in which labels
-- beyond ASCII are in Punycode; a name is refused as a whole if any label is.

namespace AccountLink.Url

namespace Name

open AccountLink.Text

def isForbidden (c : Char) : Bool :=
  c.toNat ≤ 32 || c.toNat = 127 ||
    ['#','/',':','<','>','?','@','[','\\',']','^','|','%'].contains c

def isAscii (cs : List Char) : Bool := cs.all (·.toNat < 128)

def codeMark : List Char := ['x','n','-','-']

def longestLabel : Nat := 1000
def longestCode : Nat := 2000

def isLabel (cs : List Char) : Bool :=
  !cs.head?.any isMark && cs.length ≤ longestLabel && joinersStand [] cs

structure Label where
  written : List Char
  text : List Char

namespace Label

def ofCode (code : List Char) : Option Label := do
  if longestCode < code.length then none
  let text ← Punycode.decode code
  if !isAscii text && text.all (fun c => spell c = some [c]) && composed text = text && isLabel text then
    some ⟨codeMark ++ code,text⟩
  else none

def ofText (text : List Char) : Option Label :=
  if codeMark.isPrefixOf text then
    if isAscii text then ofCode (text.drop codeMark.length) else none
  else if isAscii text then some ⟨text,text⟩
  else if isLabel text then some ⟨codeMark ++ Punycode.encode text,text⟩
  else none

def directions (label : Label) : List Direction := label.text.map direction

end Label

def readOneWay (labels : List Label) : Bool :=
  !labels.any (·.directions.any Direction.isTurned) || labels.all (readsOneWay ·.directions)

def toAscii (name : List Char) : Option (List Char) := do
  let spelt ← name.mapM spell
  let text := composed spelt.flatten
  if text.any isForbidden then none
  let labels ← (cut (· = '.') text).mapM Label.ofText
  if readOneWay labels then some (List.intercalate ['.'] (labels.map Label.written)) else none

end Name

end AccountLink.Url
