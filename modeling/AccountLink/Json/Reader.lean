import AccountLink.Json.Failure
import AccountLink.Text.Hexadecimal

-- Reading JSON text. Every reader takes the characters that remain and gives back a result with the characters
-- after it, or the first failure. `readValue` builds a value and allows a number of levels of nesting;
-- `skipValue` passes over a value of any depth without looking into its strings' escapes or at the size of its
-- numbers.

namespace AccountLink.Json

open AccountLink.Text AccountLink.Decimal

abbrev Reading (α : Type) := α × List Char

abbrev Reader (α : Type) := List Char → Except Failure (Reading α)

def isGap (c : Char) : Bool := c = ' ' || c = '\n' || c = '\t' || c = '\r'

def skipGaps (text : List Char) : List Char := text.dropWhile isGap

def readWord : List Char → List Char → Except Failure (List Char)
  | [],text => .ok text
  | _ :: _,[] => .error (.before .endOfValue [])
  | w :: word,c :: rest => if c = w then readWord word rest else .error (.within .expectedWord (c :: rest))

def readHex (text : List Char) : Except Failure (Reading Nat) :=
  let digits := match text with
    | a :: b :: c :: d :: rest =>
      match hexValue a,hexValue b,hexValue c,hexValue d with
      | some w,some x,some y,some z => some (((w * 16 + x) * 16 + y) * 16 + z,rest)
      | _,_,_,_ => none
    | _ => none
  match digits with
  | some result => .ok result
  | none =>
    if byteLength text < 4 then .error ⟨.endOfString,0⟩
    else .error ⟨.invalidEscape,byteLength text - 4⟩

def shortEscape (c : Char) : Option Char :=
  if c = '"' ∨ c = '\\' ∨ c = '/' then some c
  else if c = 'b' then some (Char.ofNat 8)
  else if c = 'f' then some (Char.ofNat 12)
  else if c = 'n' then some '\n'
  else if c = 'r' then some '\r'
  else if c = 't' then some '\t'
  else none

def readPairEnd (first : Nat) : Reader Char
  | [] => .error (.before .endOfString [])
  | '\\' :: [] => .error (.before .endOfString [])
  | '\\' :: 'u' :: rest => do
    let (second,rest) ← readHex rest
    if 0xdc00 ≤ second ∧ second ≤ 0xdfff then
      .ok (Char.ofNat (0x10000 + (first - 0xd800) * 0x400 + (second - 0xdc00)),rest)
    else .error (.before .loneSurrogate rest)
  | '\\' :: rest => .error (.within .unfinishedPair rest)
  | text => .error (.within .unfinishedPair text)

def readEscape : Reader Char
  | [] => .error (.before .endOfString [])
  | 'u' :: rest => do
    let (n,rest) ← readHex rest
    if 0xdc00 ≤ n ∧ n ≤ 0xdfff then .error (.before .loneSurrogate rest)
    else if 0xd800 ≤ n ∧ n ≤ 0xdbff then readPairEnd n rest
    else .ok (Char.ofNat n,rest)
  | c :: rest =>
    match shortEscape c with
    | some e => .ok (e,rest)
    | none => .error (.within .invalidEscape (c :: rest))

def readChars : Nat → Reader (List Char)
  | 0,text => .error (.before .endOfString text)
  | _ + 1,[] => .error (.before .endOfString [])
  | fuel + 1,c :: rest =>
    if c = '"' then .ok ([],rest)
    else if c = '\\' then do
      let (e,rest) ← readEscape rest
      let (cs,rest) ← readChars fuel rest
      .ok (e :: cs,rest)
    else if c.toNat < 32 then .error (.within .controlCharacter (c :: rest))
    else do
      let (cs,rest) ← readChars fuel rest
      .ok (c :: cs,rest)

def readString (text : List Char) : Except Failure (Reading String) := do
  let (cs,rest) ← readChars (text.length + 1) text
  .ok (String.ofList cs,rest)

def digitsOf (text : List Char) : List Char := text.takeWhile Char.isDigit

def afterDigits (text : List Char) : List Char := text.dropWhile Char.isDigit

def digitValue (c : Char) : Nat := c.toNat - '0'.toNat

def significandBound : Nat := Nat.pow 2 64

-- Takes digits into a significand until the next would make it too large: the significand and how
-- many digits are in it.
def absorb : Nat → List Char → Nat × Nat
  | significand,[] => (significand,0)
  | significand,c :: rest =>
    let next := significand * 10 + digitValue c
    if next < significandBound then
      let (result,count) := absorb next rest
      (result,count + 1)
    else (significand,0)

def exponentBound : Nat := Nat.pow 2 31

def readExponentDigits : Nat → List Char → Except (List Char) (Nat × List Char)
  | n,c :: rest =>
    if c.isDigit then
      let next := n * 10 + digitValue c
      if next < exponentBound then readExponentDigits next rest else .error rest
    else .ok (n,c :: rest)
  | n,[] => .ok (n,[])

def scaled (negative : Bool) (significand : Nat) (exponent : Int) (rest : List Char) :
    Except Failure (Reading Number) :=
  match Magnitude.scale significand exponent with
  | some size => .ok (.float ⟨negative,size⟩,rest)
  | none => .error (.before .numberOutOfRange rest)

def exponentSign : List Char → Bool × List Char
  | '+' :: rest => (false,rest)
  | '-' :: rest => (true,rest)
  | text => (false,text)

def readExponent (negative : Bool) (significand : Nat) (exponent : Int) (text : List Char) :
    Except Failure (Reading Number) :=
  let down := (exponentSign text).1
  match (exponentSign text).2 with
  | [] => .error (.before .endOfValue [])
  | c :: rest =>
    if !c.isDigit then .error (.within .invalidNumber (c :: rest)) else
    match readExponentDigits (digitValue c) rest with
    | .ok (n,rest) => scaled negative significand (if down then exponent - n else exponent + n) rest
    | .error rest =>
      if significand ≠ 0 ∧ !down then .error (.before .numberOutOfRange rest)
      else .ok (.float ⟨negative,.zero⟩,afterDigits rest)

def finishFloat (negative : Bool) (significand : Nat) (exponent : Int) : Reader Number
  | c :: rest =>
    if c = 'e' ∨ c = 'E' then readExponent negative significand exponent rest
    else scaled negative significand exponent (c :: rest)
  | [] => scaled negative significand exponent []

def readDecimals (negative : Bool) (significand : Nat) (exponent : Int) (text : List Char) :
    Except Failure (Reading Number) :=
  let digits := digitsOf text
  let rest := afterDigits text
  if digits.isEmpty then
    .error (.within (if rest.isEmpty then .endOfValue else .invalidNumber) rest)
  else
    let (significand,count) := absorb significand digits
    finishFloat negative significand (exponent - count) rest

def finishInteger (negative : Bool) (n : Nat) (text : List Char) : Except Failure (Reading Number) :=
  match text with
  | '.' :: rest => readDecimals negative n 0 rest
  | 'e' :: rest | 'E' :: rest => readExponent negative n 0 rest
  | _ =>
    if !negative then .ok (.integer n,text)
    else if n ≠ 0 ∧ -(n : Int) ≥ Number.least then .ok (.integer (-(n : Int)),text)
    else .ok (.float ⟨true,.ofNat n⟩,text)

def readNumber (negative : Bool) : Reader Number
  | [] => .error (.before .endOfValue [])
  | c :: rest =>
    if c = '0' then
      match rest with
      | d :: more =>
        if d.isDigit then .error (.within .invalidNumber (d :: more))
        else finishInteger negative 0 (d :: more)
      | [] => finishInteger negative 0 []
    else if c.isDigit then
      let digits := digitsOf (c :: rest)
      let rest := afterDigits (c :: rest)
      let (significand,count) := absorb 0 digits
      if count = digits.length then finishInteger negative significand rest
      else
        let exponent := digits.length - count
        match rest with
        | '.' :: decimals => readDecimals negative significand exponent decimals
        | _ => finishFloat negative significand exponent rest
    else .error (.within .invalidNumber (c :: rest))

def readScalar : Reader Value
  | [] => .error (.within .endOfValue [])
  | c :: rest =>
    if c = 'n' then do
      let rest ← readWord ['u','l','l'] rest
      .ok (.null,rest)
    else if c = 't' then do
      let rest ← readWord ['r','u','e'] rest
      .ok (.bool true,rest)
    else if c = 'f' then do
      let rest ← readWord ['a','l','s','e'] rest
      .ok (.bool false,rest)
    else if c = '"' then do
      let (s,rest) ← readString rest
      .ok (.string s,rest)
    else if c = '-' then do
      let (n,rest) ← readNumber true rest
      .ok (.number n,rest)
    else if c.isDigit then do
      let (n,rest) ← readNumber false (c :: rest)
      .ok (.number n,rest)
    else .error (.within .expectedValue (c :: rest))

inductive Next where
  | close (rest : List Char)
  | item (text : List Char)

def nextItem (first : Bool) (text : List Char) : Except Failure Next :=
  match skipGaps text with
  | [] => .error (.within .endOfList [])
  | c :: rest =>
    if c = ']' then .ok (.close rest)
    else if first then .ok (.item (c :: rest))
    else if c = ',' then
      match skipGaps rest with
      | [] => .error (.within .endOfValue [])
      | d :: more =>
        if d = ']' then .error (.within .trailingComma (d :: more)) else .ok (.item (d :: more))
    else .error (.within .expectedListEnd (c :: rest))

def readItems (one : Reader α) : Nat → Bool → Reader (List α)
  | 0,_,text => .error (.before .endOfList text)
  | fuel + 1,first,text => do
    match ← nextItem first text with
    | .close rest => .ok ([],rest)
    | .item item =>
      let (a,rest) ← one item
      let (as,rest) ← readItems one fuel false rest
      .ok (a :: as,rest)

def nextKey (first : Bool) (text : List Char) : Except Failure Next :=
  match skipGaps text with
  | [] => .error (.within .endOfObject [])
  | c :: rest =>
    if c = '}' then .ok (.close rest)
    else if first then
      if c = '"' then .ok (.item rest) else .error (.within .keyNotString (c :: rest))
    else if c = ',' then
      match skipGaps rest with
      | [] => .error (.within .endOfValue [])
      | d :: more =>
        if d = '"' then .ok (.item more)
        else if d = '}' then .error (.within .trailingComma (d :: more))
        else .error (.within .keyNotString (d :: more))
    else .error (.within .expectedObjectEnd (c :: rest))

def readColon (text : List Char) : Except Failure (List Char) :=
  match skipGaps text with
  | [] => .error (.within .endOfObject [])
  | c :: rest => if c = ':' then .ok rest else .error (.within .expectedColon (c :: rest))

def readMembers (one : σ → String → Reader σ) : Nat → Bool → σ → Reader σ
  | 0,_,_,text => .error (.before .endOfObject text)
  | fuel + 1,first,state,text => do
    match ← nextKey first text with
    | .close rest => .ok (state,rest)
    | .item afterQuote =>
      let (key,rest) ← readString afterQuote
      let (state,rest) ← one state key rest
      readMembers one fuel false state rest

def putMember (value : Reader Value) (members : Members) (key : String) (text : List Char) :
    Except Failure (Reading Members) := do
  let rest ← readColon text
  let (v,rest) ← value rest
  .ok (members.put key v,rest)

def readValue : Nat → Reader Value
  | room,text =>
    match skipGaps text with
    | [] => .error (.within .endOfValue [])
    | c :: rest =>
      if c = '[' then
        match room with
        | 0 => .error (.within .tooDeep (c :: rest))
        | room + 1 => do
          let (items,rest) ← readItems (readValue room) (rest.length + 1) true rest
          .ok (.array items,rest)
      else if c = '{' then
        match room with
        | 0 => .error (.within .tooDeep (c :: rest))
        | room + 1 => do
          let (members,rest) ← readMembers (putMember (readValue room)) (rest.length + 1) true [] rest
          .ok (.object members,rest)
      else readScalar (c :: rest)

def skipChars : Nat → List Char → Except Failure (List Char)
  | 0,text => .error (.before .endOfString text)
  | _ + 1,[] => .error (.before .endOfString [])
  | fuel + 1,c :: rest =>
    if c = '"' then .ok rest
    else if c = '\\' then
      match rest with
      | [] => .error (.before .endOfString [])
      | 'u' :: rest => do
        let (_,rest) ← readHex rest
        skipChars fuel rest
      | e :: rest =>
        if (shortEscape e).isSome then skipChars fuel rest else .error (.within .invalidEscape (e :: rest))
    else if c.toNat < 32 then .error (.before .controlCharacter (c :: rest))
    else skipChars fuel rest

def skipString (text : List Char) : Except Failure (List Char) := skipChars (text.length + 1) text

def skipExponent (text : List Char) : Except Failure (List Char) :=
  match (exponentSign text).2 with
  | [] => .error (.before .invalidNumber [])
  | c :: rest => if c.isDigit then .ok (afterDigits rest) else .error (.within .invalidNumber (c :: rest))

def skipFraction : List Char → Except Failure (List Char)
  | [] => .ok []
  | c :: rest =>
    if c = '.' then
      if (digitsOf rest).isEmpty then .error (.within .invalidNumber rest)
      else match afterDigits rest with
        | [] => .ok []
        | d :: more => if d = 'e' ∨ d = 'E' then skipExponent more else .ok (d :: more)
    else if c = 'e' ∨ c = 'E' then skipExponent rest
    else .ok (c :: rest)

def skipNumber : List Char → Except Failure (List Char)
  | [] => .error (.before .invalidNumber [])
  | c :: rest =>
    if c = '0' then
      match rest with
      | [] => .ok []
      | d :: more =>
        if d.isDigit then .error (.within .invalidNumber (d :: more)) else skipFraction (d :: more)
    else if c.isDigit then skipFraction (afterDigits rest)
    else .error (.within .invalidNumber (c :: rest))

def skipItems (one : List Char → Except Failure (List Char)) :
    Nat → Bool → List Char → Except Failure (List Char)
  | 0,_,text => .error (.before .endOfList text)
  | fuel + 1,first,text =>
    match skipGaps text with
    | [] => .error (.within .endOfList [])
    | c :: rest =>
      if c = ']' then .ok rest
      else if first then do
        let rest ← one (c :: rest)
        skipItems one fuel false rest
      else if c = ',' then do
        let rest ← one rest
        skipItems one fuel false rest
      else .error (.within .expectedListEnd (c :: rest))

def skipMember (one : List Char → Except Failure (List Char)) (text : List Char) :
    Except Failure (List Char) :=
  match skipGaps text with
  | [] => .error (.within .endOfObject [])
  | c :: rest =>
    if c = '"' then do
      let rest ← skipString rest
      let rest ← readColon rest
      one rest
    else .error (.within .keyNotString (c :: rest))

def skipMembers (one : List Char → Except Failure (List Char)) :
    Nat → Bool → List Char → Except Failure (List Char)
  | 0,_,text => .error (.before .endOfObject text)
  | fuel + 1,first,text =>
    match skipGaps text with
    | [] => .error (.within .endOfObject [])
    | c :: rest =>
      if c = '}' then .ok rest
      else if first then do
        let rest ← skipMember one (c :: rest)
        skipMembers one fuel false rest
      else if c = ',' then do
        let rest ← skipMember one rest
        skipMembers one fuel false rest
      else .error (.within .expectedObjectEnd (c :: rest))

def skipNested : Nat → List Char → Except Failure (List Char)
  | 0,text => .error (.before .endOfValue text)
  | fuel + 1,text =>
    match skipGaps text with
    | [] => .error (.within .endOfValue [])
    | c :: rest =>
      if c = 'n' then readWord ['u','l','l'] rest
      else if c = 't' then readWord ['r','u','e'] rest
      else if c = 'f' then readWord ['a','l','s','e'] rest
      else if c = '"' then skipString rest
      else if c = '-' then skipNumber rest
      else if c.isDigit then skipNumber (c :: rest)
      else if c = '[' then skipItems (skipNested fuel) (rest.length + 1) true rest
      else if c = '{' then skipMembers (skipNested fuel) (rest.length + 1) true rest
      else .error (.within .expectedValue (c :: rest))

def skipValue (text : List Char) : Except Failure (List Char) := skipNested (text.length + 1) text

def roomForValues : Nat := 127

def readEnd (text : List Char) : Except Failure Unit :=
  match skipGaps text with
  | [] => .ok ()
  | c :: rest => .error (.within .trailingText (c :: rest))

def Value.ofText (text : List Char) : Except Failure Value := do
  let (v,rest) ← readValue roomForValues text
  readEnd rest
  .ok v

end AccountLink.Json
