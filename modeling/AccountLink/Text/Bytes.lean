-- The bytes of a text: how long it is in UTF-8, and the text that bytes stand for, each ill-formed stretch being
-- replaced.

namespace AccountLink.Text

def byteLength (cs : List Char) : Nat := cs.foldr (fun c n => c.utf8Size + n) 0

def replacement : Char := Char.ofNat 0xfffd

-- The second byte that may follow a first byte, and how many bytes follow in all.
def leadBytes (b : Nat) : Option (Nat × Nat × Nat) :=
  if 0xc2 ≤ b ∧ b ≤ 0xdf then some (1,0x80,0xbf)
  else if b = 0xe0 then some (2,0xa0,0xbf)
  else if b = 0xed then some (2,0x80,0x9f)
  else if 0xe1 ≤ b ∧ b ≤ 0xef then some (2,0x80,0xbf)
  else if b = 0xf0 then some (3,0x90,0xbf)
  else if b = 0xf4 then some (3,0x80,0x8f)
  else if 0xf1 ≤ b ∧ b ≤ 0xf3 then some (3,0x80,0xbf)
  else none

structure Partial where
  value : Nat
  missing : Nat
  low : Nat
  high : Nat

def leadBits (count b : Nat) : Nat :=
  if count = 1 then b % 0x20 else if count = 2 then b % 0x10 else b % 8

def decodeStart (b : Nat) : List Char × Option Partial :=
  if b < 0x80 then ([Char.ofNat b],none)
  else match leadBytes b with
    | some (count,low,high) => ([],some ⟨leadBits count b,count,low,high⟩)
    | none => ([replacement],none)

-- Decodes bytes; the longest beginning of a character that breaks off becomes one replacement.
def decodeFrom : Option Partial → List Nat → List Char
  | none,[] => []
  | some _,[] => [replacement]
  | none,b :: rest =>
    let (done,next) := decodeStart b
    done ++ decodeFrom next rest
  | some p,b :: rest =>
    if p.low ≤ b ∧ b ≤ p.high then
      let value := p.value * 0x40 + b % 0x40
      if p.missing = 1 then Char.ofNat value :: decodeFrom none rest
      else decodeFrom (some ⟨value,p.missing - 1,0x80,0xbf⟩) rest
    else
      let (done,next) := decodeStart b
      replacement :: done ++ decodeFrom next rest

def decode (bytes : List UInt8) : List Char := decodeFrom none (bytes.map UInt8.toNat)

def encode (cs : List Char) : List UInt8 := cs.flatMap String.utf8EncodeChar

-- The text of bytes, if they are well-formed: a replacement gives other bytes than those it replaces.
def decode? (bytes : List UInt8) : Option (List Char) :=
  let cs := decode bytes
  if encode cs = bytes then some cs else none

end AccountLink.Text
