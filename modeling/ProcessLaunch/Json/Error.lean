import ProcessLaunch.Text.Quoted

/-!
# What is wrong with a JSON text

A text ends too early, or it breaks the grammar, or it is a value of another shape than the one that
was asked for.
-/

namespace ProcessLaunch.Json

inductive Found where
  | null
  | boolean (value : Bool)
  | integer (value : Int)
  | floating (text : String)
  | string (text : String)
  | sequence
  | map
deriving DecidableEq, Repr

namespace Found

def text : Found → String
  | null => "null"
  | boolean value => s!"boolean `{value}`"
  | integer value => s!"integer `{value}`"
  | floating text => s!"floating point `{text}`"
  | string text => s!"string {Text.quoted text}"
  | sequence => "sequence"
  | map => "map"

end Found

inductive Mismatch where
  | invalidType (found : Found) (expected : String)
  | invalidValue (value : Int) (expected : String)
  | invalidLength (length : Nat) (expected : String)
  | missingField (name : String)
  | duplicateField (name : String)
deriving DecidableEq, Repr

namespace Mismatch

def message : Mismatch → String
  | invalidType found expected => s!"invalid type: {found.text}, expected {expected}"
  | invalidValue value expected => s!"invalid value: integer `{value}`, expected {expected}"
  | invalidLength length expected => s!"invalid length {length}, expected {expected}"
  | missingField name => s!"missing field `{name}`"
  | duplicateField name => s!"duplicate field `{name}`"

end Mismatch

inductive Error where
  | truncated
  | malformed
  | mismatch (cause : Mismatch)
deriving DecidableEq, Repr

end ProcessLaunch.Json
