import ProcessLaunch.Json.Reader
import ProcessLaunch.Number.Shortest

/-!
# JSON numbers

A number is read as the literal that it is written as.  An integer that fits into 64 bits has its
own value; every other literal has that of a binary number near to it.
-/

namespace ProcessLaunch.Json

open Reader

structure Literal where
  negative : Bool
  whole : List Char
  fraction : List Char
  exponent : Option Int
deriving DecidableEq, Repr

/-! ## Reading -/

def digits : Reader (List Char) := do
  let c ← next
  if c.isDigit then (c :: ·) <$> takeWhile Char.isDigit else fail .malformed

def fraction : Reader (List Char) := do
  match ← peek? with
  | some '.' =>
      expect '.'
      digits
  | _ => return []

def exponentSign : Reader Int := do
  match ← peek? with
  | some '+' =>
      expect '+'
      return 1
  | some '-' =>
      expect '-'
      return -1
  | _ => return 1

def valueFrom (n : Nat) (digits : List Char) : Nat :=
  digits.foldl (fun n c => n * 10 + (c.toNat - 0x30)) n

def exponent? : Reader (Option Int) := do
  match ← peek? with
  | some c =>
      if c = 'e' ∨ c = 'E' then
        expect c
        let sign ← exponentSign
        let digits ← digits
        return some (sign * valueFrom 0 digits)
      else return none
  | none => return none

/-- The literal without its sign whose first character is `c`.  No digit follows a leading zero. -/
def unsignedFrom (negative : Bool) (c : Char) : Reader Literal := do
  if !c.isDigit then fail .malformed
  else
    let more ← takeWhile Char.isDigit
    if c = '0' ∧ more ≠ [] then fail .malformed
    else
      let fraction ← fraction
      let exponent ← exponent?
      return ⟨negative, c :: more, fraction, exponent⟩

def literalFrom (c : Char) : Reader Literal :=
  if c = '-' then do unsignedFrom true (← next) else unsignedFrom false c

/-- A number that nobody wants, whose first character is `c`.  One that ends too early is malformed
like every other that is wrong. -/
def skipNumberFrom (c : Char) : Reader Unit where
  run s :=
    match (literalFrom c).run s with
    | .error _ => .error .malformed
    | .ok (_, rest) => .ok ((), rest)
  length_le {s a rest} h := by
    cases hl : (literalFrom c).run s with
    | error e => simp [hl] at h
    | ok taken =>
        simp only [hl, Except.ok.injEq, Prod.mk.injEq, true_and] at h
        exact h ▸ (literalFrom c).length_le hl

/-! ## Values -/

/-- The value of a literal.  A negative number is given by its distance from zero. -/
inductive Number where
  | natural (n : Nat)
  | negative (n : Nat)
  | floating (isNegative : Bool) (magnitude : Binary64)
deriving DecidableEq, Repr

namespace Number

def maxNatural : Nat := 0xffffffffffffffff

def maxNegative : Nat := 0x8000000000000000

def integer? : Number → Option Int
  | natural n => some n
  | negative n => some (-n)
  | floating .. => none

def found : Number → Found
  | natural n => .integer n
  | negative n => .integer (-n)
  | floating isNegative magnitude =>
      .floating (String.ofList ((if isNegative then ['-'] else []) ++ magnitude.decimalText))

end Number

/-- Puts digits behind a number as long as it can be kept exactly.  The others are left. -/
def appendDigits (n : Nat) : List Char → Nat × List Char
  | [] => (n, [])
  | c :: rest =>
      let m := n * 10 + (c.toNat - 0x30)
      if m ≤ Number.maxNatural then appendDigits m rest else (n, c :: rest)

namespace Literal

/-- The binary number of a literal, if it is not too large.  It is computed from the digits that can
be kept exactly. -/
def magnitude? (literal : Literal) : Option Binary64 :=
  let (whole, dropped) := appendDigits 0 literal.whole
  let (significand, unread) := appendDigits whole literal.fraction
  let exponent : Int :=
    dropped.length - (literal.fraction.length - unread.length) + literal.exponent.getD 0
  (Binary64.ofNat significand).scale? exponent

/-- The value of a literal.  Zero with a sign is a binary number. -/
def number? (literal : Literal) : Option Number :=
  let n := valueFrom 0 literal.whole
  let integral := literal.fraction = [] ∧ literal.exponent = none
  if integral ∧ literal.negative = false ∧ n ≤ Number.maxNatural then some (.natural n)
  else if integral ∧ literal.negative = true ∧ 0 < n ∧ n ≤ Number.maxNegative then
    some (.negative n)
  else literal.magnitude?.map (.floating literal.negative)

end Literal

def numberFrom (c : Char) : Reader Number := do
  match (← literalFrom c).number? with
  | some number => return number
  | none => fail .malformed

end ProcessLaunch.Json
