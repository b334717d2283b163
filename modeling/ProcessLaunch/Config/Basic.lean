import ProcessLaunch.Config.Event
import ProcessLaunch.Properties.Entry
import ProcessLaunch.Text.Integer

/-!
# Configurations

A configuration is a table of text entries under the name of the resource it was read from.  It is
read once and never changed.  The accessors read one entry each; a malformed integer is noted and
gives the default, and never stops the caller.
-/

namespace ProcessLaunch

structure Config where
  name : String
  entries : Table String
deriving DecidableEq

namespace Config

def redacted : String := "********"

def parse (name text : String) : Config := ⟨name, Properties.parse text⟩

def get? (config : Config) (key : String) : Option String := config.entries.get? key

def getD (config : Config) (key default : String) : String := (config.get? key).getD default

def contains (config : Config) (key : String) : Bool := config.entries.contains key

def keys (config : Config) : List String := config.entries.keys

def size (config : Config) : Nat := config.entries.size

def require (config : Config) (key : String) : Except ConfigError String :=
  match config.get? key with
  | some value => if isBlankText value then .error (.missingProperty key) else .ok value
  | none => .error (.missingProperty key)

/-- The integer at a key.  An absent key gives the default; so does a value that is no integer of 32
bits, which is noted. -/
def getInteger (config : Config) (key : String) (default : Int) : Noted ConfigEvent Int :=
  match config.get? key with
  | none => ⟨default, []⟩
  | some value =>
      match Text.integer32? (Text.trim value.toList) with
      | some n => ⟨n, []⟩
      | none => ⟨default, [.invalidInteger (.invalidNumber key value) default]⟩

def lowered (s : List Char) : List Char := s.map Char.toLower

/-- The flag at a key: `true` in any case is true and every other value false. -/
def getFlag (config : Config) (key : String) (default : Bool) : Bool :=
  match config.get? key with
  | some value => lowered (Text.trim value.toList) == "true".toList
  | none => default

/-! ## Dump -/

def occursIn (word : List Char) : List Char → Bool
  | [] => word.isEmpty
  | c :: rest => word.isPrefixOf (c :: rest) || occursIn word rest

/-- Whether the value of a key must not be seen: the key has `password` in it, in any case.  No
character outside ASCII has a letter of that word as its lower case. -/
def isSensitive (key : String) : Bool := occursIn "password".toList (lowered key.toList)

def ruler (c : Char) : String := String.ofList (List.replicate 80 c)

def shown (key value : String) : String := if isSensitive key then redacted else value

def dumpLines (config : Config) : List String :=
  [ruler '=', "Loaded Configuration:", ruler '='] ++
    config.entries.toList.map (fun (key, value) => s!"  {key} = {shown key value}") ++
    [ruler '=']

def dump (config : Config) : String := "\n".intercalate config.dumpLines

end Config

end ProcessLaunch
