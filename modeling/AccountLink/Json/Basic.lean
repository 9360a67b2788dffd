import AccountLink.Decimal.Shortest

-- JSON values. An object is the list of its members; `Members.put` keeps the list in the order of its keys, the
-- last value written for a key winning, and `SortedMembers` says so.

namespace AccountLink.Json

open AccountLink.Decimal

-- A number is kept exactly if it is written as an integer of 64 bits, and as a float otherwise.
inductive Number where
  | integer (n : Int)
  | float (x : Binary64)
deriving DecidableEq, Repr

def Number.least : Int := -Int.ofNat (Nat.pow 2 63)
def Number.bound : Int := Int.ofNat (Nat.pow 2 64)

inductive Value where
  | null
  | bool (b : Bool)
  | number (n : Number)
  | string (s : String)
  | array (items : List Value)
  | object (members : List (String × Value))
deriving Repr, Inhabited

abbrev Members := List (String × Value)

def Members.put (key : String) (value : Value) : Members → Members
  | [] => [(key,value)]
  | (k,v) :: rest =>
    if key = k then (key,value) :: rest
    else if key < k then (key,value) :: (k,v) :: rest
    else (k,v) :: Members.put key value rest

def Members.get? (key : String) (members : Members) : Option Value :=
  (members.find? fun m => m.1 == key).map (·.2)

def Members.Sorted (members : Members) : Prop :=
  members.Pairwise fun a b => a.1 < b.1

def Value.ofOption (f : α → Value) : Option α → Value
  | none => .null
  | some a => f a

end AccountLink.Json
