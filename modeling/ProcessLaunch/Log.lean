/-!
# Log records

A record of the log has a level, a message and named fields in a fixed order.
-/

namespace ProcessLaunch

inductive LogLevel where
  | trace
  | debug
  | info
  | warn
  | error
deriving DecidableEq, Repr

namespace LogLevel

def name : LogLevel → String
  | trace => "TRACE"
  | debug => "DEBUG"
  | info => "INFO"
  | warn => "WARN"
  | error => "ERROR"

def rank : LogLevel → Nat
  | trace => 0
  | debug => 1
  | info => 2
  | warn => 3
  | error => 4

end LogLevel

/-- The value of a field: a text to be shown as it is, a text to be shown in quotes, an integer or a
truth value. -/
inductive FieldValue where
  | shown (text : String)
  | quoted (text : String)
  | integer (value : Int)
  | flag (value : Bool)
deriving DecidableEq, Repr

structure LogRecord where
  level : LogLevel
  message : String
  fields : List (String × FieldValue)
deriving DecidableEq, Repr

structure Noted (ε α : Type) where
  value : α
  notes : List ε

namespace Noted

variable {ε α β : Type}

def pure (value : α) : Noted ε α := ⟨value, []⟩

def bind (first : Noted ε α) (next : α → Noted ε β) : Noted ε β :=
  ⟨(next first.value).value, first.notes ++ (next first.value).notes⟩

instance : Monad (Noted ε) where
  pure := pure
  bind := bind

theorem mk_bind (value : α) (notes : List ε) (next : α → Noted ε β) :
    ((⟨value, notes⟩ : Noted ε α) >>= next) =
      ⟨(next value).value, notes ++ (next value).notes⟩ := rfl

@[simp] theorem value_pure (value : α) : (Pure.pure value : Noted ε α).value = value := rfl

@[simp] theorem notes_pure (value : α) : (Pure.pure value : Noted ε α).notes = [] := rfl

@[simp] theorem value_bind (first : Noted ε α) (next : α → Noted ε β) :
    (first >>= next).value = (next first.value).value := rfl

@[simp] theorem notes_bind (first : Noted ε α) (next : α → Noted ε β) :
    (first >>= next).notes = first.notes ++ (next first.value).notes := rfl

end Noted

end ProcessLaunch
