import ProcessLaunch.Config.Basic

/-!
# Configuration sources

A configuration is loaded from a properties file, named relative to a root.  Its bytes are read as
ISO-8859-1.
-/

namespace ProcessLaunch

structure ConfigSource where
  root : String
  name : String

namespace ConfigSource

def defaultRoot : String := "resources"

def defaultName : String := "application.properties"

def default : ConfigSource := ⟨defaultRoot, defaultName⟩

instance : Inhabited ConfigSource := ⟨default⟩

def path (source : ConfigSource) : String :=
  String.ofList (Path.join source.root.toList source.name.toList)

/-- Sources are the same if their roots have the same components and their names are the same
text. -/
def same (a b : ConfigSource) : Bool :=
  Path.components a.root.toList == Path.components b.root.toList && a.name == b.name

instance : BEq ConfigSource := ⟨same⟩

end ConfigSource

namespace Config

def load (disk : Disk) (source : ConfigSource) : Noted ConfigEvent (Except ConfigError Config) :=
  match disk.read source.path with
  | .ok bytes => ⟨.ok (parse source.name (latin1 bytes)), []⟩
  | .error .notFound =>
      ⟨.error (.notFound source.name source.path), [.fileMissing source.name source.path]⟩
  | .error cause => ⟨.error (.unreadable source.name cause), []⟩

end Config

end ProcessLaunch
