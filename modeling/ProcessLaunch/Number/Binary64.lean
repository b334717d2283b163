/-!
# Binary floating point

Non-negative numbers of 53 significant bits.  A number that is not one of them is rounded to the
nearest, and of two that are equally near to the one with the even significand.
-/

namespace ProcessLaunch

/-- The number `significand * 2 ^ exponent`. -/
structure Binary64 where
  significand : Nat
  exponent : Int
deriving DecidableEq, Repr

namespace Binary64

def precision : Nat := 53

def minExponent : Int := -1074

def maxExponent : Int := 971

def zero : Binary64 := ⟨0, 0⟩

/-- A quotient rounded to the nearest integer, a tie to the even one. -/
def roundDiv (numerator denominator : Nat) : Nat :=
  let quotient := numerator / denominator
  let twice := 2 * (numerator % denominator)
  if twice < denominator then quotient
  else if twice = denominator then quotient + quotient % 2
  else quotient + 1

def ofRatio? (numerator denominator : Nat) : Option Binary64 :=
  if numerator = 0 then some zero
  else
    let guess : Int := numerator.log2 - denominator.log2 - (precision - 1)
    let scaled (exponent : Int) : Nat × Nat :=
      (numerator * Nat.pow 2 (-exponent).toNat, denominator * Nat.pow 2 exponent.toNat)
    let fine := (scaled guess).1 < Nat.pow 2 (precision - 1) * (scaled guess).2
    let exponent := max (if fine then guess - 1 else guess) minExponent
    let significand := roundDiv (scaled exponent).1 (scaled exponent).2
    let number : Binary64 :=
      if significand = Nat.pow 2 precision then ⟨Nat.pow 2 (precision - 1), exponent + 1⟩
      else ⟨significand, exponent⟩
    if number.exponent > maxExponent then none else some number

def ratio (x : Binary64) : Nat × Nat :=
  (x.significand * Nat.pow 2 x.exponent.toNat, Nat.pow 2 (-x.exponent).toNat)

def ofNat (n : Nat) : Binary64 := (ofRatio? n 1).getD zero

def mul? (x y : Binary64) : Option Binary64 :=
  ofRatio? (x.ratio.1 * y.ratio.1) (x.ratio.2 * y.ratio.2)

def div? (x y : Binary64) : Option Binary64 :=
  ofRatio? (x.ratio.1 * y.ratio.2) (x.ratio.2 * y.ratio.1)

/-! ## Powers of ten -/

def maxPower : Nat := 308

def power (exponent : Nat) : Binary64 := ofNat (Nat.pow 10 exponent)

/-- A number divided by ten to a number of greatest powers and a rest, rounded after each. -/
def divideByPowers? (x : Binary64) (rest : Nat) : Nat → Option Binary64
  | 0 => x.div? (power rest)
  | more + 1 =>
      if x.significand = 0 then some x
      else (x.div? (power maxPower)).bind fun smaller => divideByPowers? smaller rest more

/-- A number times a power of ten, rounded after each factor.  Too large a result is none. -/
def scale? (x : Binary64) (exponent : Int) : Option Binary64 :=
  if exponent < 0 then
    let powers := (exponent.natAbs - 1) / maxPower
    x.divideByPowers? (exponent.natAbs - powers * maxPower) powers
  else if exponent.natAbs ≤ maxPower then x.mul? (power exponent.natAbs)
  else if x.significand = 0 then some x
  else none

end Binary64

end ProcessLaunch
