import ProcessLaunch.Markup.Error
import ProcessLaunch.Text.Hex
import ProcessLaunch.Text.Utf8

/-!
# Character references

An attribute value writes the five characters of markup by name, and any character by its number.
-/

namespace ProcessLaunch.Markup

def maxReference : Nat := 4294967295

def digitValue? (radix : Nat) (c : Char) : Option Nat :=
  (Text.hexValue? c).filter (· < radix)

/-- The number that digits denote behind digits of value `value`. -/
def referenceFrom (radix value : Nat) : List Char → Except ReferenceError Nat
  | [] => .ok value
  | c :: rest =>
      match digitValue? radix c with
      | none => .error .badDigit
      | some digit =>
          if value * radix + digit ≤ maxReference then
            referenceFrom radix (value * radix + digit) rest
          else .error .tooLarge

/-- The number that a text of digits denotes; it has neither sign nor blanks. -/
def referenceNumber (radix : Nat) : List Char → Except ReferenceError Nat
  | [] => .error .noDigits
  | '+' :: _ => .error .sign
  | '-' :: _ => .error .sign
  | digits => referenceFrom radix 0 digits

/-- The character of a numeric reference: decimal, or hexadecimal behind an `x`. -/
def referencedChar (name : List Char) : Except ReferenceError Char := do
  let value ←
    match name with
    | 'x' :: digits => referenceNumber 16 digits
    | digits => referenceNumber 10 digits
  if value = 0 then .error .zero
  else if value.isValidChar then .ok (Char.ofNat value)
  else .error (.noCodePoint value)

def namedChar? : List Char → Option Char
  | ['l', 't'] => some '<'
  | ['g', 't'] => some '>'
  | ['a', 'm', 'p'] => some '&'
  | ['a', 'p', 'o', 's'] => some '\''
  | ['q', 'u', 'o', 't'] => some '"'
  | _ => none

def isReferenceName (c : Char) : Bool := c != '&' && c != ';'

/-- The rest of an attribute value with its references expanded.  `length` is the length of the
whole value. -/
def expandFrom (length : Nat) : List Char → Except EntityError (List Char)
  | [] => .ok []
  | '&' :: rest =>
      let start := length - Text.byteLength ('&' :: rest)
      let name := rest.takeWhile isReferenceName
      match _hrest : rest.dropWhile isReferenceName with
      | ';' :: after => do
          let c ←
            match name with
            | '#' :: number => (referencedChar number).mapError .reference
            | _ =>
                match namedChar? name with
                | some c => .ok c
                | none =>
                    .error (.unknown (start + 1) (start + 1 + Text.byteLength name)
                      (String.ofList name))
          let tail ← expandFrom length after
          return c :: tail
      | _ => .error (.unterminated start length)
  | c :: rest => do
      let tail ← expandFrom length rest
      return c :: tail
termination_by s => s.length
decreasing_by
  · have := (List.dropWhile_suffix isReferenceName (l := rest)).length_le
    simp_all only [List.length_cons]
    omega
  · simp

def expand (value : List Char) : Except EntityError (List Char) :=
  expandFrom (Text.byteLength value) value

end ProcessLaunch.Markup
