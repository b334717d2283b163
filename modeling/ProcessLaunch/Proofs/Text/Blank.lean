import Mathlib.Data.List.DropRight
import ProcessLaunch.Text.Blank

/-!
# Trimmed texts

What trimming leaves of a text is told by its ends: the blanks that went away at both of them, and
between these a text that neither begins nor ends with one.
-/

namespace ProcessLaunch.Text

def Blanks (s : List Char) : Prop := ∀ c ∈ s, isBlank c = true

structure Trimmed (s : List Char) : Prop where
  head : ∀ c ∈ s.head?, isBlank c = false
  last : ∀ c ∈ s.getLast?, isBlank c = false

/-! ## 1. Ends -/

/-- What is left of a list without the end that has a property: the end is as long as it can be. -/
theorem rdropWhile_eq_iff {α : Type} (p : α → Bool) (l s : List α) :
    l.rdropWhile p = s ↔
      (∀ a ∈ s.getLast?, p a = false) ∧ ∃ run, (∀ a ∈ run, p a = true) ∧ l = s ++ run := by
  constructor
  · intro h
    subst h
    refine ⟨fun a ha => ?_, l.rtakeWhile p, fun a ha => List.mem_rtakeWhile_imp ha,
      List.rdropWhile_append_rtakeWhile.symm⟩
    obtain ⟨hne, rfl⟩ := List.mem_getLast?_eq_getLast ha
    exact Bool.eq_false_iff.mpr (List.rdropWhile_last_not p l hne)
  · rintro ⟨hlast, run, hrun, rfl⟩
    -- by induction on what went away, from its end, where `rdropWhile` takes it
    induction run using List.reverseRecOn with
    | nil =>
        rw [List.append_nil, List.rdropWhile_eq_self_iff]
        intro hne
        rw [hlast _ (List.getLast?_eq_getLast_of_ne_nil hne)]
        decide
    | append_singleton run a ih =>
        rw [← List.append_assoc, List.rdropWhile_concat_pos p _ a (hrun a (by simp))]
        exact ih fun b hb => hrun b (List.mem_append_left _ hb)

/-- What trimming the end leaves: a text that ends in no blank, with blanks behind it in the
original. -/
theorem trimEnd_eq_iff (s t : List Char) :
    trimEnd s = t ↔
      (∀ c ∈ t.getLast?, isBlank c = false) ∧ ∃ after, Blanks after ∧ s = t ++ after :=
  rdropWhile_eq_iff isBlank s t

theorem trimmed_of_forall {s : List Char} (h : ∀ c ∈ s, isBlank c = false) : Trimmed s where
  head c hc := h c (List.mem_of_mem_head? hc)
  last c hc := h c (List.mem_of_getLast? hc)

/-! ## 2. Both ends -/

/-- What trimming leaves: a trimmed text, with blanks before and behind it in the original. -/
theorem trim_eq_iff (s t : List Char) :
    trim s = t ↔
      Trimmed t ∧ ∃ before after, Blanks before ∧ Blanks after ∧ s = before ++ t ++ after := by
  rw [trim, trimEnd_eq_iff]
  constructor
  · rintro ⟨hlast, after, hafter, hstart⟩
    have hs : s.takeWhile isBlank ++ (t ++ after) = s := by
      rw [← hstart]
      exact List.takeWhile_append_dropWhile
    refine ⟨⟨fun c hc => ?_, hlast⟩, s.takeWhile isBlank, after,
      fun c hc => List.mem_takeWhile_imp hc, hafter, by rw [List.append_assoc, hs]⟩
    -- the first character of what is left is the first one that is not blank
    obtain ⟨rest, rfl⟩ := List.head?_eq_some_iff.mp hc
    exact isBlank_head_trimStart hstart
  · rintro ⟨ht, before, after, hbefore, hafter, rfl⟩
    rw [List.append_assoc, trimStart_append hbefore]
    refine ⟨ht.last, ?_⟩
    cases t with
    | nil =>
        -- nothing but blanks: they all go away at the front
        refine ⟨[], by simp [Blanks], ?_⟩
        rw [List.nil_append, List.nil_append, trimStart, List.dropWhile_eq_nil_iff]
        exact hafter
    | cons c t =>
        refine ⟨after, hafter, ?_⟩
        rw [List.cons_append]
        exact trimStart_cons (ht.head c rfl) (t ++ after)

theorem trimmed_trim (s : List Char) : Trimmed (trim s) := ((trim_eq_iff s (trim s)).mp rfl).1

/-- Blanks around a text do not count. -/
theorem trim_between {before s after : List Char} (hbefore : Blanks before) (hs : Trimmed s)
    (hafter : Blanks after) : trim (before ++ s ++ after) = s :=
  (trim_eq_iff _ s).mpr ⟨hs, before, after, hbefore, hafter, rfl⟩

theorem Trimmed.trim_eq {s : List Char} (h : Trimmed s) : trim s = s := by
  have hnone : Blanks [] := by simp [Blanks]
  simpa using trim_between hnone h hnone

/-- Nothing is left of blanks, and something of everything else. -/
theorem trim_eq_nil_iff (s : List Char) : trim s = [] ↔ Blanks s := by
  rw [trim_eq_iff]
  constructor
  · rintro ⟨-, before, after, hbefore, hafter, rfl⟩ c hc
    rw [List.append_nil, List.mem_append] at hc
    exact hc.elim (hbefore c) (hafter c)
  · intro h
    exact ⟨trimmed_of_forall (by simp), s, [], h, by simp [Blanks], by simp⟩

end ProcessLaunch.Text

namespace ProcessLaunch

open Text (Blanks Trimmed)

theorem isBlankText_iff (s : String) : isBlankText s = true ↔ Blanks s.toList :=
  List.all_eq_true

theorem toList_trimmed (s : String) : (trimmed s).toList = Text.trim s.toList := by
  rw [trimmed, String.toList_ofList]

theorem trimmed_eq_empty_iff (s : String) : trimmed s = "" ↔ isBlankText s = true := by
  rw [isBlankText_iff, ← Text.trim_eq_nil_iff, ← toList_trimmed, String.toList_eq_nil_iff]

theorem trimmed_trimmed (s : String) : trimmed (trimmed s) = trimmed s := by
  rw [trimmed, toList_trimmed, (Text.trimmed_trim s.toList).trim_eq, trimmed]

end ProcessLaunch
