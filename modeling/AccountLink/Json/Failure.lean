import AccountLink.Json.Basic
import AccountLink.Text.Bytes
import AccountLink.Text.Quoted
import AccountLink.Json.Printer

-- Why a JSON text is refused, and where. A cause is either the text's (`Cause`) or that of a value that is well
-- written but not what was asked for (`Mismatch`). The place is kept as the number of bytes not yet read;
-- `Position.after` turns it into a line and a column.

namespace AccountLink.Json

open AccountLink.Text

def Value.described : Value → String
  | .null => "null"
  | .bool b => "boolean \x60" ++ (if b then "true" else "false") ++ "\x60"
  | .number (.integer n) => "integer \x60" ++ String.ofList (Number.integer n).chars ++ "\x60"
  | .number (.float x) => "floating point \x60" ++ String.ofList x.chars ++ "\x60"
  | .string s => "string " ++ quote s
  | .array _ => "sequence"
  | .object _ => "map"

inductive Mismatch where
  | unexpected (found : Value) (expected : String)
  | wrongLength (found : Nat) (expected : String)
  | missing (member : String)
  | duplicate (member : String)
  | amount
deriving Repr

def Mismatch.message : Mismatch → String
  | .unexpected found expected => "invalid type: " ++ found.described ++ ", expected " ++ expected
  | .wrongLength found expected => "invalid length " ++ toString found ++ ", expected " ++ expected
  | .missing member => "missing field \x60" ++ member ++ "\x60"
  | .duplicate member => "duplicate field \x60" ++ member ++ "\x60"
  | .amount => "expected balance as string or number"

inductive Cause where
  | endOfList
  | endOfObject
  | endOfString
  | endOfValue
  | expectedColon
  | expectedListEnd
  | expectedObjectEnd
  | expectedWord
  | expectedValue
  | invalidEscape
  | invalidNumber
  | numberOutOfRange
  | controlCharacter
  | keyNotString
  | loneSurrogate
  | unfinishedPair
  | trailingComma
  | trailingText
  | tooDeep
  | mismatch (m : Mismatch)
deriving Repr

inductive Cause.Class where
  | ended
  | malformed
  | unsuitable
deriving DecidableEq, Repr

def Cause.class : Cause → Cause.Class
  | .endOfList | .endOfObject | .endOfString | .endOfValue => .ended
  | .mismatch _ => .unsuitable
  | _ => .malformed

def Cause.message : Cause → String
  | .endOfList => "EOF while parsing a list"
  | .endOfObject => "EOF while parsing an object"
  | .endOfString => "EOF while parsing a string"
  | .endOfValue => "EOF while parsing a value"
  | .expectedColon => "expected \x60:\x60"
  | .expectedListEnd => "expected \x60,\x60 or \x60]\x60"
  | .expectedObjectEnd => "expected \x60,\x60 or \x60\x7d\x60"
  | .expectedWord => "expected ident"
  | .expectedValue => "expected value"
  | .invalidEscape => "invalid escape"
  | .invalidNumber => "invalid number"
  | .numberOutOfRange => "number out of range"
  | .controlCharacter => "control character (\\u0000-\\u001F) found while parsing a string"
  | .keyNotString => "key must be a string"
  | .loneSurrogate => "lone leading surrogate in hex escape"
  | .unfinishedPair => "unexpected end of hex escape"
  | .trailingComma => "trailing comma"
  | .trailingText => "trailing characters"
  | .tooDeep => "recursion limit exceeded"
  | .mismatch m => m.message

structure Position where
  line : Nat
  column : Nat
deriving DecidableEq, Repr

def Position.advance : Position → List Char → Nat → Position
  | at_,[],_ => at_
  | at_,c :: rest,bytes =>
    if bytes = 0 then at_
    else if c = '\n' then Position.advance ⟨at_.line + 1,0⟩ rest (bytes - 1)
    else if c.utf8Size ≤ bytes then
      Position.advance ⟨at_.line,at_.column + c.utf8Size⟩ rest (bytes - c.utf8Size)
    else ⟨at_.line,at_.column + bytes⟩

-- Lines count from one; the column is the number of bytes read of the line.
def Position.after (text : List Char) (bytes : Nat) : Position :=
  Position.advance ⟨1,0⟩ text bytes

structure Failure where
  cause : Cause
  unread : Nat
deriving Repr

def Failure.before (cause : Cause) (rest : List Char) : Failure := ⟨cause,byteLength rest⟩

def Failure.within (cause : Cause) (rest : List Char) : Failure := ⟨cause,byteLength rest - 1⟩

def Failure.position (text : List Char) (f : Failure) : Position :=
  Position.after text (byteLength text - f.unread)

def Failure.message (text : List Char) (f : Failure) : String :=
  let place := f.position text
  f.cause.message ++ " at line " ++ toString place.line ++ " column " ++ toString place.column

end AccountLink.Json
