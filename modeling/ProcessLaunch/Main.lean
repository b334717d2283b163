import ProcessLaunch.CommandLine.Program
import ProcessLaunch.Engine.Uuid

/-!
# Main

The outer layer of the program: it reads the files that a launch may ask for, draws random bytes for
ids, and writes what the program comes to.
-/

namespace ProcessLaunch.Main

def isCode (number code : UInt32) : Bool := code = number || code = 0 - number

def fileError (e : IO.Error) : FileError :=
  match e with
  | .noFileOrDirectory .. => .notFound
  | .inappropriateType _ code _ => if isCode 20 code then .notDirectory else .isDirectory
  | .invalidArgument _ code _ => if isCode 36 code then .nameTooLong else .other (toString e)
  | _ => .other (toString e)

def readFile (path : String) : IO (String × Except FileError ByteArray) := do
  if path.contains '\x00' then return (path, .error .nulInName)
  try
    return (path, .ok (← IO.FS.readBinFile path))
  catch e =>
    return (path, .error (fileError e))

def diskOf (files : List (String × Except FileError ByteArray)) : Disk :=
  ⟨fun path => (files.lookup path).getD (.error .notFound)⟩

def resourcePath? (disk : Disk) (source : ConfigSource) : Option String :=
  match (Config.load disk source).value with
  | .error _ => none
  | .ok config =>
      match (EngineSettings.read config).value with
      | .error _ => none
      | .ok settings => some (Path.under source.root settings.processResource)

/-- The number of ids that a launch may need: one for each definition, one for the deployment and
one for the instance. -/
def idCount (disk : Disk) (path : String) : Nat :=
  match disk.readText path with
  | .error _ => 0
  | .ok text =>
      match Bpmn.executableProcessIds text with
      | .error _ => 0
      | .ok ids => ids.length + 2

def prepare (source : ConfigSource) : IO (Disk × IdSupply) := do
  let configuration ← readFile source.path
  match resourcePath? (diskOf [configuration]) source with
  | none => return (diskOf [configuration], Uuid.supply [])
  | some path =>
      let disk := diskOf [configuration, ← readFile path]
      let random ← IO.getRandomBytes (idCount disk path * Uuid.size).toUSize
      return (disk, Uuid.supply random.toList)

def launchOptions? (arguments : List String) (environment : CommandLine.Environment) :
    Option CommandLine.Options :=
  match CommandLine.parse arguments with
  | .ok (.launch given) => (given.options environment.resources).toOption
  | _ => none

def write : CommandLine.OutputLine → IO Unit
  | .out text => IO.println text
  | .err text => IO.eprintln text
  | .log text => IO.eprintln text

end ProcessLaunch.Main

open ProcessLaunch in
def main (arguments : List String) : IO UInt32 := do
  let environment : CommandLine.Environment :=
    ⟨← IO.getEnv "WORKFLOW_RESOURCES", ← IO.getEnv "RUST_LOG"⟩
  let (disk, ids) ←
    match Main.launchOptions? arguments environment with
    | some options => Main.prepare options.source
    | none => pure (Main.diskOf [], Uuid.supply [])
  let result := CommandLine.run arguments environment disk ids
  result.output.forM Main.write
  return result.status.toUInt32
