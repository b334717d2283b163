import ProcessLaunch.CommandLine.Terminal
import ProcessLaunch.Config.Source

/-!
# Command line options

The arguments of the program, read from left to right.  The value of an option that stands behind it
is checked when the next option is met or the arguments end; a value that is attached is checked at
once.  An argument that nothing is known of is reported before a value that is still to be checked.
-/

namespace ProcessLaunch.CommandLine

inductive EngineKind where
  | inMemory
  | rest
deriving DecidableEq, Repr

namespace EngineKind

def name : EngineKind → String
  | inMemory => "in-memory"
  | rest => "rest"

def ofName? (text : String) : Option EngineKind :=
  [inMemory, rest].find? fun kind => kind.name == text

end EngineKind

inductive ValueOption where
  | resources
  | configFile
  | engine
deriving DecidableEq, Repr

namespace ValueOption

def name : ValueOption → String
  | resources => "resources"
  | configFile => "config-file"
  | engine => "engine"

def usage : ValueOption → String
  | resources => "--resources <RESOURCES>"
  | configFile => "--config-file <CONFIG_FILE>"
  | engine => "--engine <ENGINE>"

def ofName? (text : String) : Option ValueOption :=
  [resources, configFile, engine].find? fun option => option.name == text

end ValueOption

inductive Switch where
  | printConfig
  | help
  | version
deriving DecidableEq, Repr

namespace Switch

def name : Switch → String
  | printConfig => "print-config"
  | help => "help"
  | version => "version"

def usage (switch : Switch) : String := s!"--{switch.name}"

def ofName? (text : String) : Option Switch :=
  [printConfig, help, version].find? fun switch => switch.name == text

def ofLetter? : Char → Option Switch
  | 'h' => some help
  | 'V' => some version
  | _ => none

end Switch

inductive UsageError where
  | unexpectedArgument (text : String)
  | invalidValue (value : String) (option : ValueOption)
  | missingValue (option : ValueOption)
  | repeated (usage : String)
  | unexpectedValue (value : String) (switch : Switch)
deriving DecidableEq, Repr

namespace UsageError

def text : UsageError → String
  | unexpectedArgument text => "error: unexpected argument '" ++ inBold text ++ "' found"
  | invalidValue value option =>
      "error: invalid value '" ++ inBold value ++ s!"' for '{option.usage}'"
  | missingValue option => s!"error: a value is required for '{option.usage}' but none was supplied"
  | repeated usage => s!"error: the argument '{usage}' cannot be used multiple times"
  | unexpectedValue value switch =>
      "error: unexpected value '" ++ inBold value ++
        s!"' for '{switch.usage}' found; no more were expected"

def message (e : UsageError) : String := visibleText e.text

end UsageError

structure Given where
  resources : Option String
  configFile : Option String
  engine : Option EngineKind
  printConfig : Bool
deriving DecidableEq, Repr

namespace Given

def empty : Given := ⟨none, none, none, false⟩

def has (given : Given) : ValueOption → Bool
  | .resources => given.resources.isSome
  | .configFile => given.configFile.isSome
  | .engine => given.engine.isSome

/-- Takes the value of an option.  Only the name of a file may be empty. -/
def set (given : Given) (option : ValueOption) (value : String) : Except UsageError Given :=
  match option with
  | .resources =>
      if value = "" then .error (.missingValue .resources)
      else .ok { given with resources := some value }
  | .configFile => .ok { given with configFile := some value }
  | .engine =>
      if value = "" then .error (.missingValue .engine)
      else
        match EngineKind.ofName? value with
        | some kind => .ok { given with engine := some kind }
        | none => .error (.invalidValue value .engine)

def setOnce (given : Given) (option : ValueOption) (value : String) : Except UsageError Given :=
  if given.has option then .error (.repeated option.usage) else given.set option value

end Given

abbrev PendingOption := Option (ValueOption × Option String)

def settle (given : Given) : PendingOption → Except UsageError Given
  | none => .ok given
  | some (option, none) => .error (.missingValue option)
  | some (option, some value) => given.setOnce option value

inductive Command where
  | launch (given : Given)
  | help (long : Bool)
  | version
deriving DecidableEq, Repr

def splitAttached (s : List Char) : String × Option String :=
  let name := s.takeWhile (· != '=')
  (String.ofList name,
    if name.length = s.length then none else some (String.ofList (s.drop (name.length + 1))))

inductive Argument where
  | separator
  | long (name : String) (attached : Option String)
  | short (letter : Char)
  | plain (text : String)
deriving DecidableEq, Repr

/-- The kind of an argument.  Letters behind the first one say nothing, because each letter ends the
reading. -/
def Argument.of (text : String) : Argument :=
  match text.toList with
  | ['-', '-'] => .separator
  | '-' :: '-' :: rest =>
      let (name, attached) := splitAttached rest
      .long name attached
  | '-' :: letter :: _ => .short letter
  | _ => .plain text

def parseFrom (given : Given) (pending : PendingOption) : List String → Except UsageError Command
  | [] => (settle given pending).map .launch
  | text :: rest =>
      match Argument.of text with
      | .separator =>
          match rest with
          | [] => (settle given pending).map .launch
          | next :: _ => .error (.unexpectedArgument next)
      | .short letter =>
          match Switch.ofLetter? letter with
          | some .version => (settle given pending).map fun _ => .version
          | some _ => (settle given pending).map fun _ => .help false
          | none => .error (.unexpectedArgument (String.ofList ['-', letter]))
      | .plain text =>
          match pending with
          | some (option, none) => parseFrom given (some (option, some text)) rest
          | _ => .error (.unexpectedArgument text)
      | .long name attached =>
          match ValueOption.ofName? name, Switch.ofName? name, attached with
          | some option, _, none =>
              match settle given pending with
              | .error e => .error e
              | .ok given => parseFrom given (some (option, none)) rest
          | some option, _, some value =>
              match (settle given pending).bind fun given => given.setOnce option value with
              | .error e => .error e
              | .ok given => parseFrom given none rest
          | none, some switch, some value => .error (.unexpectedValue value switch)
          | none, some .help, none => (settle given pending).map fun _ => .help true
          | none, some .version, none => (settle given pending).map fun _ => .version
          | none, some .printConfig, none =>
              match settle given pending with
              | .error e => .error e
              | .ok given =>
                  if given.printConfig then .error (.repeated Switch.printConfig.usage)
                  else parseFrom { given with printConfig := true } none rest
          | none, none, _ => .error (.unexpectedArgument s!"--{name}")

def parse (arguments : List String) : Except UsageError Command := parseFrom .empty none arguments

/-! ## Options with defaults -/

structure Options where
  source : ConfigSource
  engine : EngineKind
  printConfig : Bool

def Given.options (given : Given) (environmentResources : Option String) :
    Except UsageError Options :=
  let given' :=
    match given.resources, environmentResources with
    | none, some value => given.set .resources value
    | _, _ => .ok given
  given'.map fun given =>
    { source :=
        ⟨given.resources.getD ConfigSource.defaultRoot,
          given.configFile.getD ConfigSource.defaultName⟩
      engine := given.engine.getD .inMemory
      printConfig := given.printConfig }

end ProcessLaunch.CommandLine
