/-!
# Lifecycle states
-/

namespace ProcessLaunch

inductive LifecycleState where
  | unstarted
  | configured
  | deployed
  | started
  | closed
  | failed
deriving DecidableEq, Repr

namespace LifecycleState

def text : LifecycleState → String
  | unstarted => "unstarted"
  | configured => "configured"
  | deployed => "deployed"
  | started => "started"
  | closed => "closed"
  | failed => "failed"

def isTerminal : LifecycleState → Bool
  | closed => true
  | failed => true
  | _ => false

end LifecycleState

end ProcessLaunch
