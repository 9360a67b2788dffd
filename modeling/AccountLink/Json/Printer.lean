import AccountLink.Json.Basic
import AccountLink.Text.Hexadecimal

-- JSON text. One writer serves both layouts: a layout says what stands before an item and after a colon, and
-- both are blanks. `Value.compact` puts nothing there, `Value.pretty` a line for each item.

namespace AccountLink.Json

open AccountLink.Text

def escapeChar (c : Char) : List Char :=
  if c = '"' then ['\\','"']
  else if c = '\\' then ['\\','\\']
  else if c = '\n' then ['\\','n']
  else if c = '\r' then ['\\','r']
  else if c = '\t' then ['\\','t']
  else if c.toNat = 8 then ['\\','b']
  else if c.toNat = 12 then ['\\','f']
  else if c.toNat < 32 then ['\\','u','0','0',hexDigit (c.toNat / 16),hexDigit (c.toNat % 16)]
  else [c]

def quoted (cs : List Char) : List Char :=
  '"' :: cs.flatMap escapeChar ++ ['"']

def Number.chars : Number → List Char
  | .integer n => (if n < 0 then ['-'] else []) ++ Nat.toDigits 10 n.natAbs
  | .float x => x.chars

-- What a layout puts before an item or a closing bracket at a depth, and after a colon.
structure Layout where
  gap : Nat → List Char
  afterColon : List Char

def Layout.compact : Layout := ⟨fun _ => [],[]⟩

def Layout.pretty : Layout := ⟨fun depth => '\n' :: List.replicate (2 * depth) ' ',[' ']⟩

mutual

def Value.write (layout : Layout) (depth : Nat) : Value → List Char
  | .null => ['n','u','l','l']
  | .bool true => ['t','r','u','e']
  | .bool false => ['f','a','l','s','e']
  | .number n => n.chars
  | .string s => quoted s.toList
  | .array [] => ['[',']']
  | .array (item :: items) =>
    '[' :: layout.gap (depth + 1) ++ item.write layout (depth + 1) ++ writeItems layout depth items
  | .object [] => ['{','}']
  | .object (member :: members) =>
    '{' :: layout.gap (depth + 1) ++ quoted member.1.toList ++ ':' :: layout.afterColon ++
      member.2.write layout (depth + 1) ++ writeMembers layout depth members

def writeItems (layout : Layout) (depth : Nat) : List Value → List Char
  | [] => layout.gap depth ++ [']']
  | item :: items =>
    ',' :: layout.gap (depth + 1) ++ item.write layout (depth + 1) ++ writeItems layout depth items

def writeMembers (layout : Layout) (depth : Nat) : List (String × Value) → List Char
  | [] => layout.gap depth ++ ['}']
  | member :: members =>
    ',' :: layout.gap (depth + 1) ++ quoted member.1.toList ++ ':' :: layout.afterColon ++
      member.2.write layout (depth + 1) ++ writeMembers layout depth members

end

def Value.compact (v : Value) : String := String.ofList (v.write .compact 0)

def Value.pretty (v : Value) : String := String.ofList (v.write .pretty 0)

end AccountLink.Json
