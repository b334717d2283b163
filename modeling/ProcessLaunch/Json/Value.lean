import ProcessLaunch.Json.Number
import ProcessLaunch.Json.String

/-!
# Values of a shape

Readers of values that have to be of a certain shape.  Such a reader is given the first character of
the value.  A value of another shape is read as far as is needed to say what it is.
-/

namespace ProcessLaunch.Json

open Reader

abbrev ValueReader (α : Type) := Char → Reader α

namespace ValueReader

variable {α β : Type}

def map (f : α → β) (value : ValueReader α) : ValueReader β := fun c => f <$> value c

def spaced (value : ValueReader α) : Reader α := do
  spaces
  value (← next)

end ValueReader

def foundFrom (c : Char) : Reader Found :=
  match c with
  | 'n' => (fun _ => .null) <$> word "ull".toList
  | 't' => (fun _ => .boolean true) <$> word "rue".toList
  | 'f' => (fun _ => .boolean false) <$> word "alse".toList
  | '"' => Found.string <$> stringBody
  | '[' => return .sequence
  | '\x7b' => return .map
  | c => if c = '-' ∨ c.isDigit then Number.found <$> numberFrom c else fail .malformed

def refuse {α : Type} (expected : String) : ValueReader α := fun c => do
  let found ← foundFrom c
  fail (.mismatch (.invalidType found expected))

def string : ValueReader String := fun c =>
  if c = '"' then stringBody else refuse "a string" c

def boolean : ValueReader Bool := fun c =>
  match c with
  | 't' => (fun _ => true) <$> word "rue".toList
  | 'f' => (fun _ => false) <$> word "alse".toList
  | c => refuse "a boolean" c

def integerBetween (least greatest : Int) (expected : String) : ValueReader Int := fun c =>
  if c = '-' ∨ c.isDigit then do
    let number ← numberFrom c
    match number.integer? with
    | none => fail (.mismatch (.invalidType number.found expected))
    | some n =>
        if least ≤ n ∧ n ≤ greatest then return n
        else fail (.mismatch (.invalidValue n expected))
  else refuse expected c

def integer64 : ValueReader Int64 :=
  (integerBetween Int64.minValue.toInt Int64.maxValue.toInt "i64").map Int64.ofInt

def natural32 : ValueReader Nat := (integerBetween 0 0xffffffff "u32").map Int.toNat

def optional {α : Type} (value : ValueReader α) : ValueReader (Option α) := fun c =>
  if c = 'n' then (fun _ => none) <$> word "ull".toList else some <$> value c

end ProcessLaunch.Json
