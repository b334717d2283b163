import ProcessLaunch.CommandLine.Help
import ProcessLaunch.CommandLine.Options
import ProcessLaunch.Engine.InMemory
import ProcessLaunch.Launch.Run
import ProcessLaunch.Log.Filter
import ProcessLaunch.Log.Line

/-!
# The program

What the program writes and the status that it ends with, for its arguments, its environment, the
files that it can read and the ids that it can issue.  It knows no engine but the one in memory.
-/

namespace ProcessLaunch.CommandLine

structure Environment where
  resources : Option String
  logFilter : Option String

inductive OutputLine where
  | out (text : String)
  | err (text : String)
  | log (text : String)
deriving DecidableEq, Repr

structure ProgramResult where
  status : Nat
  output : List OutputLine

def successStatus : Nat := 0

def failureStatus : Nat := 1

def usageStatus : Nat := 2

def fallbackWarning : String :=
  "WARNING: REST engine requested via --engine rest, but 'engine-rest' feature is not enabled. " ++
    "Falling back to the in-memory engine."

def Environment.filter (environment : Environment) : LogFilter :=
  match environment.logFilter with
  | some text => .ofText text
  | none => .default

def itemLines (filter : LogFilter) (item : TraceItem) : List OutputLine :=
  (Trace.lines [item]).map .out ++
    ((Trace.log [item]).filter filter.shows).map fun record => .log record.line

def Options.launch (options : Options) (disk : Disk) : Launch InMemory.Store where
  disk := disk
  source := options.source
  printConfig := options.printConfig
  builder := InMemory.builder disk options.source.root

def runLaunch (options : Options) (filter : LogFilter) (disk : Disk) (ids : IdSupply) :
    ProgramResult :=
  let outcome := (options.launch disk).run .initial (.empty ids)
  let before :=
    (if options.engine = .rest then [.err fallbackWarning] else []) ++
      [.out "Starting workflow application..."]
  let during := outcome.trace.flatMap (itemLines filter)
  match outcome.result with
  | .ok _ =>
      ⟨successStatus, before ++ during ++ [.out "Application completed successfully!"]⟩
  | .error e =>
      ⟨failureStatus, before ++ during ++ [.err s!"Application failed: {e.message}"]⟩

def refuse (e : UsageError) : ProgramResult := ⟨usageStatus, [.err e.message]⟩

def present (text : String) : ProgramResult :=
  ⟨successStatus, ((visibleText text).splitOn "\n").map .out⟩

def run (arguments : List String) (environment : Environment) (disk : Disk) (ids : IdSupply) :
    ProgramResult :=
  match parse arguments with
  | .error e => refuse e
  | .ok (.help false) => present (shortHelp environment.resources)
  | .ok (.help true) => present (longHelp environment.resources)
  | .ok .version => present versionLine
  | .ok (.launch given) =>
      match given.options environment.resources with
      | .error e => refuse e
      | .ok options => runLaunch options environment.filter disk ids

end ProcessLaunch.CommandLine
