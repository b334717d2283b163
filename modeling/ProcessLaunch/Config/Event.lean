import ProcessLaunch.Failure
import ProcessLaunch.Log

/-!
# Events of reading a configuration
-/

namespace ProcessLaunch

inductive ConfigEvent where
  | fileMissing (name path : String)
  | invalidInteger (error : ConfigError) (default : Int)
  | negativePoolBound (key : String) (value default : Int)
deriving DecidableEq, Repr

namespace ConfigEvent

def record : ConfigEvent → LogRecord
  | fileMissing name path =>
      ⟨.error, s!"Unable to find {name}", [("resource", .shown path)]⟩
  | invalidInteger error default =>
      ⟨.warn, "Invalid integer property, using default",
        [("error", .shown error.message), ("default", .integer default)]⟩
  | negativePoolBound key value default =>
      ⟨.warn, "Negative pool size, using default",
        [("key", .quoted key), ("value", .integer value), ("default", .integer default)]⟩

end ConfigEvent

end ProcessLaunch
