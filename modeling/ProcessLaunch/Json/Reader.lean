import ProcessLaunch.Json.Error

/-!
# Readers

A reader takes something off the front of a text and leaves what stands behind it.  It never puts
anything back, so what it leaves is no longer than what it was given.
-/

namespace ProcessLaunch.Json

structure Reader (α : Type) where
  run : List Char → Except Error (α × List Char)
  length_le : ∀ {s a rest}, run s = .ok (a, rest) → rest.length ≤ s.length

namespace Reader

variable {α β : Type}

protected def pure (a : α) : Reader α where
  run s := .ok (a, s)
  length_le h := by cases h; exact Nat.le_refl _

protected def bind (first : Reader α) (next : α → Reader β) : Reader β where
  run s :=
    match first.run s with
    | .error e => .error e
    | .ok (a, rest) => (next a).run rest
  length_le {s b rest} h := by
    cases hf : first.run s with
    | error e => simp [hf] at h
    | ok taken =>
        simp only [hf] at h
        exact Nat.le_trans ((next taken.1).length_le h) (first.length_le hf)

instance : Monad Reader where
  pure := Reader.pure
  bind := Reader.bind

@[simp] theorem run_pure (a : α) (s : List Char) : (pure a : Reader α).run s = .ok (a, s) := rfl

@[simp] theorem run_bind (first : Reader α) (next : α → Reader β) (s : List Char) :
    (first >>= next).run s =
      match first.run s with
      | .error e => .error e
      | .ok (a, rest) => (next a).run rest := rfl

@[simp] theorem run_map (f : α → β) (r : Reader α) (s : List Char) :
    (f <$> r).run s =
      match r.run s with
      | .error e => .error e
      | .ok (a, rest) => .ok (f a, rest) := rfl

def fail (e : Error) : Reader α where
  run _ := .error e
  length_le h := by cases h

@[simp] theorem run_fail (e : Error) (s : List Char) : (fail e : Reader α).run s = .error e := rfl

def next : Reader Char where
  run
    | [] => .error .truncated
    | c :: rest => .ok (c, rest)
  length_le {s c rest} h := by
    cases s with
    | nil => cases h
    | cons d tail => cases h; exact Nat.le_succ _

@[simp] theorem run_next_nil : next.run [] = .error .truncated := rfl

@[simp] theorem run_next_cons (c : Char) (rest : List Char) :
    next.run (c :: rest) = .ok (c, rest) := rfl

def peek? : Reader (Option Char) where
  run s := .ok (s.head?, s)
  length_le h := by cases h; exact Nat.le_refl _

@[simp] theorem run_peek? (s : List Char) : peek?.run s = .ok (s.head?, s) := rfl

def takeWhile (p : Char → Bool) : Reader (List Char) where
  run s := .ok (s.takeWhile p, s.dropWhile p)
  length_le h := by cases h; exact (List.dropWhile_suffix _).length_le

@[simp] theorem run_takeWhile (p : Char → Bool) (s : List Char) :
    (takeWhile p).run s = .ok (s.takeWhile p, s.dropWhile p) := rfl

def isSpace (c : Char) : Bool := c == ' ' || c == '\n' || c == '\t' || c == '\r'

def spaces : Reader Unit := (fun _ => ()) <$> takeWhile isSpace

@[simp] theorem run_spaces (s : List Char) : spaces.run s = .ok ((), s.dropWhile isSpace) := rfl

def expect (c : Char) : Reader Unit := do
  if (← next) = c then return () else fail .malformed

def word : List Char → Reader Unit
  | [] => return ()
  | c :: rest => do
      expect c
      word rest

def readAll (r : Reader α) (s : List Char) : Except Error α :=
  match r.run s with
  | .error e => .error e
  | .ok (a, rest) => if rest.all isSpace then .ok a else .error .malformed

/-! ## Readers that take at least one character -/

/-- A reader that never leaves the text as it was. -/
def Strict (r : Reader α) : Prop :=
  ∀ ⦃s a rest⦄, r.run s = .ok (a, rest) → rest.length < s.length

theorem strict_next : next.Strict := by
  intro s a rest h
  cases s with
  | nil => cases h
  | cons c tail => cases h; exact Nat.lt_succ_self _

theorem Strict.bind {first : Reader α} (h : first.Strict) (next : α → Reader β) :
    (first >>= next).Strict := by
  intro s b rest hrun
  rw [run_bind] at hrun
  cases hf : first.run s with
  | error e => simp [hf] at hrun
  | ok taken =>
      simp only [hf] at hrun
      exact Nat.lt_of_le_of_lt ((next taken.1).length_le hrun) (h hf)

theorem strict_bind {first : Reader α} {next : α → Reader β} (h : ∀ a, (next a).Strict) :
    (first >>= next).Strict := by
  intro s b rest hrun
  rw [run_bind] at hrun
  cases hf : first.run s with
  | error e => simp [hf] at hrun
  | ok taken =>
      simp only [hf] at hrun
      exact Nat.lt_of_lt_of_le (h taken.1 hrun) (first.length_le hf)

end Reader

end ProcessLaunch.Json
