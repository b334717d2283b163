import ProcessLaunch.Proofs.Json.Number
import ProcessLaunch.Proofs.Json.String

/-!
# Written values

Which texts the readers of values take, with the space before them: strings, integers and what may
be null.
-/

namespace ProcessLaunch.Json

open Reader

/-- The texts that a reader of values takes are those that are written for them.  No value begins
with space. -/
structure ValueReader.Reads {α : Type} (value : ValueReader α) (writes : α → List Char → Prop) :
    Prop where
  reads : (do value (← next)).Reads writes
  unspaced : ∀ {a t}, writes a t → Unspaced t

def Spaced {α : Type} (writes : α → List Char → Prop) (a : α) (s : List Char) : Prop :=
  ∃ b t, Spaces b ∧ writes a t ∧ s = b ++ t

namespace ValueReader

variable {α β : Type} {value : ValueReader α} {writes : α → List Char → Prop}

/-! ## 1. Values and space -/

theorem Reads.sound (h : value.Reads writes) {c : Char} {s rest : List Char} {a : α}
    (hrun : (value c).run s = .ok (a, rest)) : ∃ t, writes a t ∧ c :: s = t ++ rest :=
  h.reads.sound (run_bind_eq_ok.mpr ⟨c, s, rfl, hrun⟩)

/-- A value that is written is read from its first character on, if no number goes on behind it. -/
theorem Reads.complete (h : value.Reads writes) {a : α} {t rest : List Char} (ht : writes a t)
    (hrest : Ended rest) :
    ∃ c t', t = c :: t' ∧ isSpace c = false ∧ (value c).run (t' ++ rest) = .ok (a, rest) := by
  -- nothing is read from an empty text, so there is a first character
  obtain ⟨c, s, hs, -⟩ := run_bind_eq_ok.mp (h.reads.complete ht ended_nil)
  rw [List.append_nil, run_next_eq_ok] at hs
  subst hs
  obtain ⟨d, s', hd, hrun⟩ := run_bind_eq_ok.mp (h.reads.complete ht hrest)
  obtain ⟨rfl, rfl⟩ := List.cons.inj (run_next_eq_ok.mp hd)
  exact ⟨c, s, rfl, h.unspaced ht c rfl, hrun⟩

theorem Reads.map (h : value.Reads writes) (f : α → β) :
    (value.map f).Reads fun b t => ∃ a, f a = b ∧ writes a t where
  reads := by
    have hmap : (do value.map f (← next)).run = (f <$> do value (← next)).run := by
      funext s
      cases s <;> rfl
    exact ⟨fun hrun => (h.reads.map f).sound (hmap ▸ hrun),
      fun ht _ hrest => hmap ▸ (h.reads.map f).complete ht hrest⟩
  unspaced := fun ⟨_, _, ht⟩ => h.unspaced ht

/-- Space in front of a value does not count. -/
theorem Reads.spaced (h : value.Reads writes) : value.spaced.Reads (Spaced writes) where
  sound hrun := by
    obtain ⟨b, c, s, hb, -, rfl, hvalue⟩ := run_spaces_next_eq_ok.mp hrun
    obtain ⟨t, ht, hs⟩ := h.sound hvalue
    exact ⟨b ++ t, ⟨b, t, hb, ht, rfl⟩, by rw [List.append_assoc, hs]⟩
  complete := by
    rintro a _ ⟨b, t, hb, ht, rfl⟩ rest hrest
    obtain ⟨c, t, rfl, hc, hrun⟩ := h.complete ht hrest
    exact run_spaces_next_eq_ok.mpr ⟨b, c, t ++ rest, hb, hc, by simp, hrun⟩

end ValueReader

theorem run_refuse_ne_ok {α : Type} {expected : String} {c : Char} {s rest : List Char} {a : α} :
    (refuse expected c).run s ≠ .ok (a, rest) := by
  intro h
  rw [refuse, run_bind_eq_ok] at h
  obtain ⟨_, _, _, h⟩ := h
  cases h

/-! ## 2. Strings -/

theorem reads_string : ValueReader.Reads string WritesString where
  reads := {
    sound := by
      intro s text rest h
      simp only [run_bind_eq_ok, run_next_eq_ok, string] at h
      obtain ⟨c, s, rfl, h⟩ := h
      split at h
      next hc =>
        obtain ⟨_, ⟨t, ht, rfl⟩, rfl⟩ := takes_stringBody.mp h
        exact ⟨_, ⟨t, ht, rfl⟩, by rw [hc, List.cons_append, List.cons_append]⟩
      next => exact absurd h run_refuse_ne_ok
    complete := by
      rintro text _ ⟨t, ht, rfl⟩ rest -
      exact takes_stringBody.run_append ⟨t, ht, rfl⟩ rest }
  unspaced := by
    rintro text _ ⟨t, -, rfl⟩
    exact unspaced_cons (by decide)

/-! ## 3. Integers -/

def WritesInteger (least greatest n : Int) (s : List Char) : Prop :=
  least ≤ n ∧ n ≤ greatest ∧ s = (toString n).toList

/-- An integer is read exactly if it is one in decimal notation and lies between the bounds. -/
theorem reads_integerBetween (least greatest : Int) (hleast : -(Number.maxNegative : Int) ≤ least)
    (hgreatest : greatest ≤ Number.maxNatural) (expected : String) :
    (integerBetween least greatest expected).Reads (WritesInteger least greatest) where
  reads := {
    sound := by
      intro s n rest h
      simp only [run_bind_eq_ok, run_next_eq_ok, integerBetween] at h
      obtain ⟨c, s, rfl, h⟩ := h
      split at h
      next =>
        simp only [numberFrom, run_bind_eq_ok] at h
        obtain ⟨number, behind, ⟨l, behind', hl, hnumber⟩, h⟩ := h
        obtain ⟨t, ht, hs⟩ := reads_literal.sound (run_bind_eq_ok.mpr ⟨c, s, run_next_cons c s, hl⟩)
        split at hnumber
        next hvalue =>
          obtain ⟨rfl, rfl⟩ := run_pure_eq_ok.mp hnumber
          split at h
          next => cases h
          next m hm =>
            split at h
            next hbounds =>
              obtain ⟨rfl, rfl⟩ := run_pure_eq_ok.mp h
              -- many literals denote an integer, but only its decimal notation is kept as one
              have htext := toList_toString_of_number? ht hvalue hm
              exact ⟨t, ⟨hbounds.1, hbounds.2, htext⟩, hs⟩
            next => cases h
        next => cases hnumber
      next => exact absurd h run_refuse_ne_ok
    complete := by
      rintro n _ ⟨hlow, hhigh, rfl⟩ rest hrest
      obtain ⟨l, number, hl, hnumber, hn⟩ :=
        exists_literal_toString (Int.le_trans hleast hlow) (Int.le_trans hhigh hgreatest)
      obtain ⟨c, t, hs, hc⟩ := hl.exists_cons
      have hrun := reads_literal.complete hl hrest
      rw [hs, List.cons_append, run_bind, run_next_cons] at hrun ⊢
      simp only [integerBetween, hc, if_true, numberFrom, run_bind, hrun, hnumber, run_pure, hn,
        hlow, hhigh, and_self] }
  unspaced := by
    rintro n _ ⟨hlow, hhigh, rfl⟩
    obtain ⟨l, -, hl, -⟩ :=
      exists_literal_toString (Int.le_trans hleast hlow) (Int.le_trans hhigh hgreatest)
    exact hl.unspaced

def WritesInteger64 (n : Int64) (s : List Char) : Prop := s = (toString n.toInt).toList

theorem reads_integer64 : ValueReader.Reads integer64 WritesInteger64 := by
  have hbetween := (reads_integerBetween Int64.minValue.toInt Int64.maxValue.toInt (by decide)
    (by decide) "i64").map Int64.ofInt
  have hwrites : (fun n t => ∃ i, Int64.ofInt i = n ∧
      WritesInteger Int64.minValue.toInt Int64.maxValue.toInt i t) = WritesInteger64 := by
    funext n t
    refine propext ⟨?_, fun h => ?_⟩
    · rintro ⟨i, rfl, hlow, hhigh, rfl⟩
      rw [WritesInteger64, Int64.toInt_ofInt_of_le hlow (Int.lt_add_one_of_le hhigh)]
    · exact ⟨n.toInt, Int64.ofInt_toInt n, Int64.minValue_le_toInt n, Int64.toInt_le n, h⟩
  rwa [hwrites] at hbetween

def WritesNatural32 (n : Nat) (s : List Char) : Prop := n ≤ 0xffffffff ∧ s = (toString n).toList

theorem reads_natural32 : ValueReader.Reads natural32 WritesNatural32 := by
  have hbetween := (reads_integerBetween 0 0xffffffff (by decide) (by decide) "u32").map Int.toNat
  have hwrites : (fun n t => ∃ i, Int.toNat i = n ∧ WritesInteger 0 0xffffffff i t) =
      WritesNatural32 := by
    funext n t
    refine propext ⟨?_, ?_⟩
    · rintro ⟨i, rfl, hlow, hhigh, rfl⟩
      obtain ⟨m, rfl⟩ := Int.eq_ofNat_of_zero_le hlow
      exact ⟨by omega, rfl⟩
    · rintro ⟨hle, rfl⟩
      exact ⟨n, Int.toNat_natCast n, by omega, by omega, rfl⟩
  rwa [hwrites] at hbetween

/-! ## 4. Values that may be null -/

def WritesOptional {α : Type} (writes : α → List Char → Prop) : Option α → List Char → Prop
  | none, s => s = "null".toList
  | some a, s => writes a s

/-- Null is read as nothing; everything else is left to the reader of the value. -/
theorem reads_optional {α : Type} {value : ValueReader α} {writes : α → List Char → Prop}
    (h : value.Reads writes) (hnull : ∀ {a t}, writes a t → t.head? ≠ some 'n') :
    (optional value).Reads (WritesOptional writes) where
  reads := {
    sound := by
      intro s a rest hrun
      simp only [run_bind_eq_ok, run_next_eq_ok, optional] at hrun
      obtain ⟨c, s, rfl, hrun⟩ := hrun
      split at hrun
      next hc =>
        obtain ⟨_, hword, rfl⟩ := run_map_eq_ok.mp hrun
        rw [run_word_eq_ok.mp hword, hc]
        exact ⟨_, rfl, rfl⟩
      next =>
        obtain ⟨a, hvalue, rfl⟩ := run_map_eq_ok.mp hrun
        exact h.sound hvalue
    complete := by
      intro a t ht rest hrest
      cases a with
      | none =>
          subst ht
          show ((fun _ => none) <$> word "ull".toList).run ("ull".toList ++ rest) = _
          exact run_map_eq_ok.mpr ⟨(), run_word_eq_ok.mpr rfl, rfl⟩
      | some a =>
          obtain ⟨c, t, rfl, -, hrun⟩ := h.complete ht hrest
          -- no value begins like null
          have hc : c ≠ 'n' := fun hc => hnull ht (congrArg some hc)
          simp only [List.cons_append, run_bind, run_next_cons, optional, hc, if_false, run_map,
            hrun] }
  unspaced := by
    intro a t ht
    cases a with
    | none => exact ht ▸ unspaced_cons (by decide)
    | some a => exact h.unspaced ht

theorem reads_optional_string : (optional string).Reads (WritesOptional WritesString) := by
  refine reads_optional reads_string ?_
  rintro text _ ⟨t, -, rfl⟩
  exact fun hquote => absurd (Option.some.inj hquote) (by decide)

theorem toList_toString_ne_null (n : Int) {s : List Char} : (toString n).toList ≠ 'n' :: s := by
  obtain ⟨c, t, hn, hc⟩ := exists_cons_toString n
  rw [hn]
  intro h
  obtain ⟨rfl, -⟩ := List.cons.inj h
  revert hc
  decide

theorem WritesInteger64.head?_ne {n : Int64} {s : List Char} (h : WritesInteger64 n s) :
    s.head? ≠ some 'n' := by
  intro hn
  obtain ⟨t, rfl⟩ := List.head?_eq_some_iff.mp hn
  exact toList_toString_ne_null n.toInt h.symm

theorem reads_optional_integer64 :
    (optional integer64).Reads (WritesOptional WritesInteger64) :=
  reads_optional reads_integer64 WritesInteger64.head?_ne

end ProcessLaunch.Json
