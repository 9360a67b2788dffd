import AccountLink.Decimal.Binary64

-- The shortest decimal text of a floating-point number: the fewest digits that read back as the same number, and
-- of those the nearest, of two the even one. `shortest` finds the digits, `Form.chars` writes them.

namespace AccountLink.Decimal

structure Scientific where
  digits : Nat
  exponent : Int
deriving DecidableEq, Repr

namespace Scientific

def fraction (d : Scientific) : Nat × Nat :=
  let power := Nat.pow 10 d.exponent.natAbs
  if d.exponent < 0 then (d.digits,power) else (d.digits * power,1)

end Scientific

def fractionLt (x y : Nat × Nat) : Bool := x.1 * y.2 < y.1 * x.2
def fractionLe (x y : Nat × Nat) : Bool := x.1 * y.2 ≤ y.1 * x.2

namespace Magnitude

def interval (x : Magnitude) : (Nat × Nat) × (Nat × Nat) :=
  let quarter : Magnitude := ⟨1,x.exponent - 2⟩
  let down := if x.mantissa = Nat.pow 2 52 ∧ leastExponent < x.exponent then 1 else 2
  (fraction ⟨4 * x.mantissa - down,quarter.exponent⟩,fraction ⟨4 * x.mantissa + 2,quarter.exponent⟩)

-- Whether a decimal reads back as `x`; the ends do when the mantissa is even.
def holds (x : Magnitude) (d : Scientific) : Bool :=
  let (low,high) := x.interval
  if x.mantissa % 2 = 0 then fractionLe low d.fraction && fractionLe d.fraction high
  else fractionLt low d.fraction && fractionLt d.fraction high

def below (x : Magnitude) (exponent : Int) : Scientific :=
  let (num,den) := x.fraction
  if exponent < 0 then ⟨num * Nat.pow 10 exponent.natAbs / den,exponent⟩
  else ⟨num / (den * Nat.pow 10 exponent.natAbs),exponent⟩

-- Whether `x` is rounded to `d`, and not to the next multiple of the same power of ten: it is nearer, or
-- half-way between the two and `d` is the even one.
def roundsDown (x : Magnitude) (d : Scientific) : Bool :=
  let middle := Scientific.fraction ⟨10 * d.digits + 5,d.exponent - 1⟩
  if d.digits % 2 = 0 then fractionLe x.fraction middle else fractionLt x.fraction middle

def onGrid (x : Magnitude) (exponent : Int) : Option Scientific :=
  let low := x.below exponent
  let high : Scientific := ⟨low.digits + 1,exponent⟩
  match x.holds low,x.holds high with
  | true,true => some (if x.roundsDown low then low else high)
  | true,false => some low
  | false,true => some high
  | false,false => none

def leadingExponent (x : Magnitude) : Int :=
  let (num,den) := x.fraction
  let guess : Int := ((num.log2 : Int) - den.log2 + 1) * 30103 / 100000 + 1
  let reaches (k : Int) : Bool :=
    if k < 0 then den ≤ num * Nat.pow 10 k.natAbs else den * Nat.pow 10 k.natAbs ≤ num
  if reaches guess then guess else if reaches (guess - 1) then guess - 1 else guess - 2

def firstOnGrid (x : Magnitude) : Nat → Int → Scientific
  | 0,exponent => x.below exponent
  | steps + 1,exponent => (x.onGrid exponent).getD (firstOnGrid x steps (exponent - 1))

-- The shortest decimal that reads back as `x`; seventeen digits always do.
def shortest (x : Magnitude) : Scientific := x.firstOnGrid 17 x.leadingExponent

end Magnitude

structure Form where
  leastPositional : Int
  greatestPositional : Int

-- Positional from `0.00001` up to below `10 ^ 16`.
def Form.json : Form := ⟨-5,15⟩

def dropZeros : Nat → Nat → Nat × Nat
  | 0,n => (n,0)
  | fuel + 1,n =>
    if n ≠ 0 ∧ n % 10 = 0 then
      let (m,count) := dropZeros fuel (n / 10)
      (m,count + 1)
    else (n,0)

def Form.chars (form : Form) (d : Scientific) : List Char :=
  let (digits,zeros) := dropZeros 20 d.digits
  let ds := Nat.toDigits 10 digits
  let exponent := d.exponent + zeros
  let leading := exponent + ds.length - 1
  if form.leastPositional ≤ leading ∧ leading ≤ form.greatestPositional then
    if leading < 0 then
      ['0','.'] ++ List.replicate (leading.natAbs - 1) '0' ++ ds
    else if 0 ≤ exponent then
      ds ++ List.replicate exponent.natAbs '0' ++ ['.','0']
    else
      ds.take (leading.natAbs + 1) ++ '.' :: ds.drop (leading.natAbs + 1)
  else
    let fractional := match ds.drop 1 with
      | [] => []
      | rest => '.' :: rest
    ds.take 1 ++ fractional ++ ['e',if leading < 0 then '-' else '+'] ++ Nat.toDigits 10 leading.natAbs

def Binary64.chars (x : Binary64) : List Char :=
  (if x.negative then ['-'] else []) ++
    if x.magnitude.isZero then ['0','.','0'] else Form.json.chars x.magnitude.shortest

end AccountLink.Decimal
