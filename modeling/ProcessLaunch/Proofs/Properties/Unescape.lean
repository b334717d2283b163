import ProcessLaunch.Properties.Escape

/-!
# One escape at a time

What unescaping does with the beginning of a text, one equation for each way in which a text can
begin.
-/

namespace ProcessLaunch.Properties

open Text

theorem unescape_nil : unescape [] = [] := by
  rw [unescape]

/-- A character other than a backslash stands for itself. -/
theorem unescape_cons {c : Char} (h : c ≠ '\\') (rest : List Char) :
    unescape (c :: rest) = c :: unescape rest := by
  rw [unescape] <;> simp [h]

/-- Text without a backslash stands for itself. -/
theorem unescape_plain {text : List Char} (h : '\\' ∉ text) (rest : List Char) :
    unescape (text ++ rest) = text ++ unescape rest := by
  induction text with
  | nil => rfl
  | cons c text ih =>
      rw [List.mem_cons, not_or] at h
      rw [List.cons_append, unescape_cons (Ne.symm h.1), ih h.2, List.cons_append]

/-- A backslash before a character other than `u`. -/
theorem unescape_escaped {c : Char} (h : c ≠ 'u') (rest : List Char) :
    unescape ('\\' :: c :: rest) = escaped c :: unescape rest := by
  rw [unescape]
  simp [h]

/-- What begins like a unit and is none loses nothing. -/
theorem unescape_malformed {rest : List Char} (h : readUnit? rest = none) :
    unescape ('\\' :: 'u' :: rest) = '\\' :: 'u' :: unescape rest := by
  rw [unescape]
  split
  next => rfl
  next unit after h' => cases h.symm.trans h'

/-- A unit that is no half of a pair is a character of its own. -/
theorem unescape_unit {rest after : List Char} {unit : Nat}
    (hunit : readUnit? rest = some (unit, after)) (hhigh : isHighSurrogate unit = false)
    (hlow : isLowSurrogate unit = false) :
    unescape ('\\' :: 'u' :: rest) = Char.ofNat unit :: unescape after := by
  rw [unescape]
  split
  -- the definition asks for the unit again, and can only be given the same one
  next h => cases hunit.symm.trans h
  next unit' after' h =>
    obtain ⟨rfl, rfl⟩ := Prod.mk.inj (Option.some.inj (hunit.symm.trans h))
    simp [hhigh, hlow]

/-- A high surrogate before a low one is a character together with it. -/
theorem unescape_pair {rest after beyond : List Char} {high low : Nat}
    (hunit : readUnit? rest = some (high, after)) (hhigh : isHighSurrogate high = true)
    (hlow : readLowSurrogate? after = some (low, beyond)) :
    unescape ('\\' :: 'u' :: rest) = surrogatePair high low :: unescape beyond := by
  rw [unescape]
  split
  next h => cases hunit.symm.trans h
  next high' after' h =>
    obtain ⟨rfl, rfl⟩ := Prod.mk.inj (Option.some.inj (hunit.symm.trans h))
    rw [if_pos hhigh]
    split
    next low' beyond' h' =>
      obtain ⟨rfl, rfl⟩ := Prod.mk.inj (Option.some.inj (hlow.symm.trans h'))
      rfl
    next h' => cases hlow.symm.trans h'

/-- A surrogate without its partner stays as it is written. -/
theorem unescape_unpaired {rest after : List Char} {unit : Nat}
    (hunit : readUnit? rest = some (unit, after))
    (h : isHighSurrogate unit = true ∧ readLowSurrogate? after = none ∨
      isHighSurrogate unit = false ∧ isLowSurrogate unit = true) :
    unescape ('\\' :: 'u' :: rest) = '\\' :: 'u' :: (rest.take 4 ++ unescape after) := by
  rw [unescape]
  split
  next h => cases hunit.symm.trans h
  next unit' after' h' =>
    obtain ⟨rfl, rfl⟩ := Prod.mk.inj (Option.some.inj (hunit.symm.trans h'))
    rcases h with ⟨hhigh, hnone⟩ | ⟨hhigh, hlow⟩
    · rw [if_pos hhigh]
      split
      next low beyond h'' => cases hnone.symm.trans h''
      next => rfl
    · simp [hhigh, hlow]

end ProcessLaunch.Properties
