import AccountLink.Text.Pieces
import AccountLink.Url.Percent
import AccountLink.Url.Name.Label

-- Hosts: names, and numbers of the two kinds. A name whose last part looks like a number has to be one.

namespace AccountLink.Url

open AccountLink.Text

inductive Host where
  | name (cs : List Char)
  | four (address : Nat)
  | six (pieces : List Nat)
deriving DecidableEq, Repr

def parsePart (part : List Char) : Option Nat :=
  let read (base : Nat) (digits : List Char) : Option Nat :=
    digits.foldlM (fun n c =>
      match hexValue c with
      | some d => if d < base then some (n * base + d) else none
      | none => none) 0
  match part with
  | [] => none
  | '0' :: 'x' :: digits | '0' :: 'X' :: digits => read 16 digits
  | '0' :: d :: digits => read 8 (d :: digits)
  | digits => read 10 digits

def partsOf (name : List Char) : List (List Char) :=
  let parts := cut (· = '.') name
  if 1 < parts.length ∧ parts.getLast? = some [] then parts.dropLast else parts

def endsInNumber (name : List Char) : Bool :=
  match (partsOf name).getLast? with
  | none => false
  | some last => (!last.isEmpty && last.all Char.isDigit) || (parsePart last).isSome

-- Up to four parts; all but the last are bytes, and the last stands for the bytes that are left.
def parseFour (name : List Char) : Option Nat := do
  let numbers ← (partsOf name).mapM parsePart
  let last ← numbers.getLast?
  let bytes := numbers.dropLast
  if 4 < numbers.length ∨ bytes.any (255 < ·) ∨ Nat.pow 256 (4 - bytes.length) ≤ last then none
  else some (bytes.zipIdx.foldr (fun (n,i) total => n * Nat.pow 256 (3 - i) + total) last)

def fourChars (address : Nat) : List Char :=
  let byte (i : Nat) := Nat.toDigits 10 (address / Nat.pow 256 i % 256)
  byte 3 ++ '.' :: byte 2 ++ '.' :: byte 1 ++ '.' :: byte 0

def parsePiece (digits : List Char) : Option Nat :=
  if digits.isEmpty ∨ 4 < digits.length then none
  else digits.foldlM (fun n c => (hexValue c).map fun d => n * 16 + d) 0

def parseByte (digits : List Char) : Option Nat :=
  if digits.isEmpty ∨ !digits.all Char.isDigit ∨ (1 < digits.length ∧ digits.head? = some '0') then none
  else
    let n := Nat.ofDigitChars 10 digits 0
    if n < 256 then some n else none

-- The pieces on one side of a gap; at the end of an address, four bytes may stand for two of them.
def parsePieces (atEnd : Bool) (side : List Char) : Option (List Nat) := do
  if side.isEmpty then some [] else
  let groups := cut (· = ':') side
  let last ← groups.getLast?
  let front ← groups.dropLast.mapM parsePiece
  if atEnd ∧ last.contains '.' then
    match ← (cut (· = '.') last).mapM parseByte with
    | [a,b,c,d] => some (front ++ [a * 256 + b,c * 256 + d])
    | _ => none
  else some (front ++ [← parsePiece last])

def cutGap : List Char → Option (List Char × List Char)
  | ':' :: ':' :: rest => some ([],rest)
  | c :: rest => (cutGap rest).map fun (left,right) => (c :: left,right)
  | [] => none

def parseSix (text : List Char) : Option (List Nat) :=
  match cutGap text with
  | none => do
    let pieces ← parsePieces true text
    if pieces.length = 8 then some pieces else none
  | some (left,right) => do
    let front ← parsePieces false left
    let back ← parsePieces true right
    if front.length + back.length < 8 then
      some (front ++ List.replicate (8 - front.length - back.length) 0 ++ back)
    else none

def zeroRuns : List Nat → List Nat
  | [] => []
  | n :: rest =>
    let runs := zeroRuns rest
    (if n = 0 then runs.headD 0 + 1 else 0) :: runs

def joinPieces : List Nat → List Char
  | [] => []
  | [n] => Nat.toDigits 16 n
  | n :: rest => Nat.toDigits 16 n ++ ':' :: joinPieces rest

-- The first of the longest runs of zeros is left out, if it has two pieces or more.
def sixChars (pieces : List Nat) : List Char :=
  let runs := zeroRuns pieces
  let longest := runs.foldl max 0
  if longest < 2 then joinPieces pieces
  else
    let start := runs.findIdx (· = longest)
    joinPieces (pieces.take start) ++ [':',':'] ++ joinPieces (pieces.drop (start + longest))

def Host.parse (text : List Char) : Option Host :=
  match text with
  | '[' :: rest =>
    if rest.getLast? = some ']' then (parseSix rest.dropLast).map .six else none
  | _ => do
    let name ← Name.toAscii (← decode? (percentDecode text))
    if name.isEmpty then none
    else if endsInNumber name then (parseFour name).map .four
    else some (.name name)

def Host.chars : Host → List Char
  | .name cs => cs
  | .four address => fourChars address
  | .six pieces => '[' :: sixChars pieces ++ [']']

end AccountLink.Url
