-- Labels of host names beyond ASCII: the characters that are ASCII come first, and then, in order of code
-- points, where the others go, as differences in digits of base 36. `encode` writes a label so, and `decode`
-- reads it.

namespace AccountLink.Url.Punycode

def digit (n : Nat) : Char := if n < 26 then Char.ofNat (n + 'a'.toNat) else Char.ofNat (n - 26 + '0'.toNat)

def threshold (bias place : Nat) : Nat :=
  if place ≤ bias then 1 else if bias + 26 ≤ place then 26 else place - bias

def digits (bias : Nat) : Nat → Nat → Nat → List Char
  | 0,_,_ => []
  | fuel + 1,place,n =>
    let t := threshold bias place
    if n < t then [digit n] else digit (t + (n - t) % (36 - t)) :: digits bias fuel (place + 36) ((n - t) / (36 - t))

def reduce : Nat → Nat → Nat → Nat × Nat
  | 0,delta,k => (delta,k)
  | fuel + 1,delta,k => if 455 < delta then reduce fuel (delta / 35) (k + 36) else (delta,k)

def adapt (delta points : Nat) (first : Bool) : Nat :=
  let delta := if first then delta / 700 else delta / 2
  let (delta,k) := reduce (delta + 1) (delta + delta / points) 0
  k + 36 * delta / (delta + 38)

structure Progress where
  written : List Char
  delta : Nat
  bias : Nat
  handled : Nat

def pass (basic n : Nat) (p : Progress) (c : Char) : Progress :=
  if c.toNat < n then {p with delta := p.delta + 1}
  else if c.toNat = n then
    {written := p.written ++ digits p.bias (p.delta + 1) 36 p.delta
     delta := 0
     bias := adapt p.delta (p.handled + 1) (p.handled = basic)
     handled := p.handled + 1}
  else p

def ascending (points : List Nat) : List Nat := (points.mergeSort (· ≤ ·)).eraseDups

def insertAll (label : List Char) (basic : Nat) : Nat → List Nat → Progress → Progress
  | _,[],p => p
  | from_,n :: rest,p =>
    let p := {p with delta := p.delta + (n - from_) * (p.handled + 1)}
    let p := label.foldl (pass basic n) p
    insertAll label basic (n + 1) rest {p with delta := p.delta + 1}

def encode (label : List Char) : List Char :=
  let basic := label.filter (·.toNat < 128)
  let others := ascending ((label.filter (128 ≤ ·.toNat)).map Char.toNat)
  let p := insertAll label basic.length 128 others ⟨[],0,72,basic.length⟩
  basic ++ (if basic.isEmpty then [] else ['-']) ++ p.written

def digitValue (c : Char) : Option Nat :=
  if 'a' ≤ c ∧ c ≤ 'z' then some (c.toNat - 'a'.toNat)
  else if '0' ≤ c ∧ c ≤ '9' then some (c.toNat - '0'.toNat + 26)
  else none

def limit : Nat := Nat.pow 2 32

-- How far a label has been read: its characters and the last code point, and for the difference under way
-- where it starts, what it comes to, and the weight and place of its next digit.
structure Reading where
  label : List Char
  point : Nat
  bias : Nat
  start : Nat
  position : Nat
  weight : Nat
  place : Nat

namespace Reading

def insert (r : Reading) (position : Nat) : Option Reading :=
  let count := r.label.length + 1
  let point := r.point + position / count
  let next := position % count + 1
  if point.isValidChar then
    some {label := r.label.insertIdx (position % count) (Char.ofNat point)
          point,bias := adapt (position - r.start) count (r.start = 0)
          start := next,position := next,weight := 1,place := 36}
  else none

def digit (r : Reading) (c : Char) : Option Reading := do
  let value ← digitValue c
  let position := r.position + value * r.weight
  let t := threshold r.bias r.place
  if limit ≤ position then none
  else if value < t then r.insert position
  else
    let weight := r.weight * (36 - t)
    if limit ≤ weight then none else some {r with position,weight,place := r.place + 36}

end Reading

-- The characters that are ASCII, and the digits behind the last hyphen; one at the beginning is no such.
def cutBasic (text : List Char) : List Char × List Char :=
  match text.reverse.dropWhile (· ≠ '-') with
  | _ :: c :: front => ((c :: front).reverse,(text.reverse.takeWhile (· ≠ '-')).reverse)
  | _ => ([],text)

def decode (text : List Char) : Option (List Char) := do
  let (basic,digits) := cutBasic text
  let r ← digits.foldlM Reading.digit ⟨basic,128,72,0,0,1,36⟩
  if r.place = 36 then some r.label else none

end AccountLink.Url.Punycode
