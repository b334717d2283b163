import ProcessLaunch.Lifecycle.State

/-!
# Lifecycle histories

A lifecycle is in a state and remembers the states that it has left, the oldest first.
-/

namespace ProcessLaunch

structure Lifecycle where
  past : List LifecycleState
  state : LifecycleState
deriving DecidableEq, Repr

namespace Lifecycle

def initial : Lifecycle := ⟨[], .unstarted⟩

instance : Inhabited Lifecycle := ⟨initial⟩

def history (lifecycle : Lifecycle) : List LifecycleState := lifecycle.past ++ [lifecycle.state]

def advance (lifecycle : Lifecycle) (next : LifecycleState) : Lifecycle :=
  ⟨lifecycle.history, next⟩

@[simp] theorem history_initial : initial.history = [.unstarted] := rfl

@[simp] theorem state_advance (lifecycle : Lifecycle) (next : LifecycleState) :
    (lifecycle.advance next).state = next := rfl

@[simp] theorem history_advance (lifecycle : Lifecycle) (next : LifecycleState) :
    (lifecycle.advance next).history = lifecycle.history ++ [next] := rfl

@[simp] theorem getLast?_history (lifecycle : Lifecycle) :
    lifecycle.history.getLast? = some lifecycle.state := by
  simp [history]

end Lifecycle

end ProcessLaunch
