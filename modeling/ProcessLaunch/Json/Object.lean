import ProcessLaunch.Json.Skip
import ProcessLaunch.Json.Value
import ProcessLaunch.Table

/-!
# Objects and arrays

The members of an object are read in the order in which they stand, into whatever is made of them.
What becomes of a member is decided when its key is known.
-/

namespace ProcessLaunch.Json

open Reader

/-- What becomes of a member: its value is read into the fields, or skipped, or the key is
refused. -/
inductive Member (φ : Type) where
  | read (value : ValueReader φ)
  | skipped
  | refused (e : Error)

/-! ## Members -/

def key? (first : Bool) : Reader (Option String) := do
  spaces
  let c ← next
  if c = '\x7d' then return none
  else if first then
    if c = '"' then some <$> stringBody else fail .malformed
  else if c = ',' then
    spaces
    expect '"'
    some <$> stringBody
  else fail .malformed

theorem strict_key? (first : Bool) : (key? first).Strict :=
  strict_bind fun _ => strict_next.bind _

def colon : Reader Unit := do
  spaces
  expect ':'

variable {φ : Type}

def Member.reader (fields : φ) : Member φ → Reader φ
  | .read value => do
      colon
      value.spaced
  | .skipped => do
      colon
      skipValue
      return fields
  | .refused e => fail e

def memberStep (member : φ → String → Member φ) (first : Bool) (fields : φ) :
    Reader (Option φ) := do
  match ← key? first with
  | none => return none
  | some key => some <$> (member fields key).reader fields

theorem strict_memberStep (member : φ → String → Member φ) (first : Bool) (fields : φ) :
    (memberStep member first fields).Strict :=
  (strict_key? first).bind _

def takeMembers (member : φ → String → Member φ) (first : Bool) (fields : φ) (s : List Char) :
    Except Error (φ × List Char) :=
  match _h : (memberStep member first fields).run s with
  | .error e => .error e
  | .ok (none, rest) => .ok (fields, rest)
  | .ok (some fields, rest) => takeMembers member false fields rest
termination_by s.length
decreasing_by exact strict_memberStep member first _ _h

theorem length_takeMembers {member : φ → String → Member φ} {first : Bool} {fields fields' : φ}
    {s rest : List Char} (h : takeMembers member first fields s = .ok (fields', rest)) :
    rest.length < s.length := by
  fun_induction takeMembers member first fields s generalizing fields' rest with
  | case1 => cases h
  | case2 _ _ _ _ hm => cases h; exact strict_memberStep _ _ _ hm
  | case3 _ _ _ _ _ hm ih => exact Nat.lt_trans (ih h) (strict_memberStep _ _ _ hm)

def members (member : φ → String → Member φ) (fields : φ) : Reader φ where
  run := takeMembers member true fields
  length_le h := Nat.le_of_lt (length_takeMembers h)

/-! ## Elements -/

def element? {α : Type} (first : Bool) (value : ValueReader α) : Reader (Option α) := do
  spaces
  let c ← next
  if c = ']' then return none
  else if first then some <$> value c
  else if c = ',' then some <$> value.spaced
  else fail .malformed

def endOfArray : Reader Unit := do
  spaces
  expect ']'

def requiredElement {α : Type} (number : Nat) (expected : String) (value : ValueReader α) :
    Reader α := do
  match ← element? (number == 0) value with
  | some a => return a
  | none => fail (.mismatch (.invalidLength number expected))

/-! ## Records and tables -/

/-- A record, written as an object or as an array of its fields. -/
def recordOf {α : Type} (expected : String) (object array : Reader α) : ValueReader α := fun c =>
  if c = '\x7b' then object
  else if c = '[' then array
  else refuse expected c

def requiredField {α : Type} (name : String) : Option α → Reader α
  | some a => return a
  | none => fail (.mismatch (.missingField name))

def once {α : Type} (name : String) (old : Option α) (value : ValueReader φ) : Member φ :=
  match old with
  | none => .read value
  | some _ => .refused (.mismatch (.duplicateField name))

/-- A table with a value at each key.  The last value of a key counts. -/
def table {α : Type} (value : ValueReader α) : ValueReader (Table α) := fun c =>
  if c = '\x7b' then
    members (fun entries key => .read (value.map (entries.insert key))) ∅
  else refuse "a map" c

end ProcessLaunch.Json
