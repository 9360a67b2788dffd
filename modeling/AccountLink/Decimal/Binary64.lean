-- Finite binary floating-point numbers in exact arithmetic. A number is a sign, a 53-bit mantissa and a power of
-- two; `nearest` rounds a fraction of natural numbers to one, half to even, and every operation is that rounding
-- of an exact result.

namespace AccountLink.Decimal

structure Magnitude where
  mantissa : Nat
  exponent : Int
deriving DecidableEq, Repr

namespace Magnitude

-- Mantissas are below `2 ^ 53`, exponents between `leastExponent` and `greatestExponent`.
def leastExponent : Int := -1074
def greatestExponent : Int := 971

def zero : Magnitude := ⟨0,leastExponent⟩

def isZero (x : Magnitude) : Bool := x.mantissa == 0

def fraction (x : Magnitude) : Nat × Nat :=
  let power := Nat.pow 2 x.exponent.natAbs
  if x.exponent < 0 then (x.mantissa,power) else (x.mantissa * power,1)

def roundHalfEven (num den : Nat) : Nat :=
  let quotient := num / den
  let remainder := num % den
  if 2 * remainder < den then quotient
  else if den < 2 * remainder then quotient + 1
  else quotient + quotient % 2

def exponentOf (num den : Nat) : Int :=
  let guess : Int := (num.log2 : Int) - den.log2 - 53
  let wide :=
    if guess + 53 < 0 then den ≤ num * Nat.pow 2 (guess + 53).natAbs
    else den * Nat.pow 2 (guess + 53).natAbs ≤ num
  max leastExponent (if wide then guess + 1 else guess)

def nearest (num den : Nat) : Option Magnitude :=
  if num = 0 then some zero else
  let exponent := exponentOf num den
  let mantissa :=
    if exponent < 0 then roundHalfEven (num * Nat.pow 2 exponent.natAbs) den
    else roundHalfEven num (den * Nat.pow 2 exponent.natAbs)
  let rounded : Magnitude :=
    if mantissa = Nat.pow 2 53 then ⟨Nat.pow 2 52,exponent + 1⟩ else ⟨mantissa,exponent⟩
  if greatestExponent < rounded.exponent then none else some rounded

def ofNat (n : Nat) : Magnitude := (nearest n 1).getD zero

def powerOfTen (n : Nat) : Magnitude := ofNat (Nat.pow 10 n)

def mul (x y : Magnitude) : Option Magnitude :=
  nearest (x.fraction.1 * y.fraction.1) (x.fraction.2 * y.fraction.2)

def div (x y : Magnitude) : Magnitude :=
  (nearest (x.fraction.1 * y.fraction.2) (x.fraction.2 * y.fraction.1)).getD zero

def shrink (x : Magnitude) (n : Nat) : Magnitude :=
  if x.isZero then x
  else if 308 < n then shrink (x.div (powerOfTen 308)) (n - 308)
  else x.div (powerOfTen n)
termination_by n
decreasing_by omega

-- `significand · 10 ^ exponent` with one rounding for the significand and one for each scaling step;
-- none if that is past the greatest magnitude.
def scale (significand : Nat) (exponent : Int) : Option Magnitude :=
  let x := ofNat significand
  if exponent < 0 then some (x.shrink exponent.natAbs)
  else if exponent ≤ 308 then x.mul (powerOfTen exponent.natAbs)
  else if x.isZero then some x
  else none

end Magnitude

structure Binary64 where
  negative : Bool
  magnitude : Magnitude
deriving DecidableEq, Repr

end AccountLink.Decimal
