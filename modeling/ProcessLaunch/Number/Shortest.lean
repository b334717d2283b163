import ProcessLaunch.Number.Binary64

/-!
# Shortest decimals

The text of a binary number has the fewest digits that read back as the number, and of those the
nearest.
-/

namespace ProcessLaunch.Binary64

/-- A bound of the interval of numbers that are rounded to `x`, in quarters of its last bit. -/
def lowerQuarter (x : Binary64) : Nat :=
  if x.significand = Nat.pow 2 (precision - 1) ∧ x.exponent > minExponent then
    4 * x.significand - 1
  else 4 * x.significand - 2

def upperQuarter (x : Binary64) : Nat := 4 * x.significand + 2

/-- The comparison of `digits * 10 ^ power` with a number of quarters of the last bit of `x`. -/
def compareDecimal (x : Binary64) (digits : Nat) (power : Int) (quarters : Nat) : Ordering :=
  let bits := x.exponent - 2
  compare (digits * Nat.pow 10 power.toNat * Nat.pow 2 (-bits).toNat)
    (quarters * Nat.pow 2 bits.toNat * Nat.pow 10 (-power).toNat)

/-- Whether `digits * 10 ^ power` is rounded to `x`.  The bounds themselves are, if the significand
is even. -/
def isNear (x : Binary64) (digits : Nat) (power : Int) : Bool :=
  let even := x.significand % 2 == 0
  (match x.compareDecimal digits power x.lowerQuarter with
    | .gt => true
    | .eq => even
    | .lt => false) &&
  (match x.compareDecimal digits power x.upperQuarter with
    | .lt => true
    | .eq => even
    | .gt => false)

def decimalShift : Nat := 400

def decimalExponent (x : Binary64) : Int :=
  ((Nat.toDigits 10 (x.ratio.1 * Nat.pow 10 decimalShift / x.ratio.2)).length : Int) - 1 - decimalShift

/-- The decimal on the grid of `10 ^ power` that is nearest to `x`, if one reads back as `x`. -/
def nearestOnGrid? (x : Binary64) (power : Int) : Option Nat :=
  let numerator := x.ratio.1 * Nat.pow 10 (-power).toNat
  let denominator := x.ratio.2 * Nat.pow 10 power.toNat
  let below := numerator / denominator
  let nearest := roundDiv numerator denominator
  if x.isNear nearest power then some nearest
  else if x.isNear below power then some below
  else if x.isNear (below + 1) power then some (below + 1)
  else none

/-- The first grid with a decimal that reads back, from one digit on. -/
def searchGrids (x : Binary64) (power : Int) : Nat → Nat × Int
  | 0 => ((x.nearestOnGrid? power).getD 0, power)
  | more + 1 =>
      match x.nearestOnGrid? power with
      | some digits => (digits, power)
      | none => searchGrids x (power - 1) more

def shortest (x : Binary64) : List Char × Int :=
  let (digits, power) := x.searchGrids x.decimalExponent 17
  let written := Nat.toDigits 10 digits
  let zeros := (written.reverse.takeWhile (· == '0')).length
  (written.take (written.length - zeros), power + zeros)

/-! ## Text -/

/-- Numbers from `10 ^ -5` on and below `10 ^ 16` are written out; others have an exponent with its
sign.  A number that is written out has at least one digit behind its point. -/
def decimalText (x : Binary64) : List Char :=
  if x.significand = 0 then "0.0".toList
  else
    let (digits, power) := x.shortest
    let point : Int := digits.length + power
    if -5 < point ∧ point ≤ 16 then
      if 0 ≤ power then digits ++ List.replicate power.toNat '0' ++ ['.', '0']
      else if 0 < point then digits.take point.toNat ++ '.' :: digits.drop point.toNat
      else '0' :: '.' :: List.replicate (-point).toNat '0' ++ digits
    else
      let mantissa :=
        match digits with
        | first :: second :: rest => first :: '.' :: second :: rest
        | one => one
      let exponent := point - 1
      mantissa ++ 'e' :: (if exponent < 0 then '-' else '+') :: Nat.toDigits 10 exponent.natAbs

end ProcessLaunch.Binary64
