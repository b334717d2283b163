import ProcessLaunch.Proofs.Json.Number
import ProcessLaunch.Proofs.Text.Blank
import ProcessLaunch.Text.Integer

/-!
# Written integers

The texts that are read as an integer, and as which one.  There are many for each integer: zeros in
front and a plus do not count.
-/

namespace ProcessLaunch.Text

open Json (Digits)

/-- The ways to write an integer: at least one ASCII digit behind at most one sign. -/
inductive WritesInteger : Int → List Char → Prop
  | unsigned {ds : List Char} (h : Digits ds) : WritesInteger (Nat.ofDigitChars 10 ds 0) ds
  | plus {ds : List Char} (h : Digits ds) : WritesInteger (Nat.ofDigitChars 10 ds 0) ('+' :: ds)
  | minus {ds : List Char} (h : Digits ds) :
      WritesInteger (-(Nat.ofDigitChars 10 ds 0 : Nat)) ('-' :: ds)

def Fits32 (n : Int) : Prop := -2 ^ 31 ≤ n ∧ n ≤ 2 ^ 31 - 1

instance (n : Int) : Decidable (Fits32 n) := inferInstanceAs (Decidable (_ ∧ _))

/-! ## 1. Digits -/

/-- The digits read so far are worth ten times as much with each one behind them. -/
theorem digitsFrom?_eq_some_iff (value n : Nat) (ds : List Char) :
    digitsFrom? value ds = some n ↔
      (∀ c ∈ ds, c.isDigit = true) ∧ Nat.ofDigitChars 10 ds value = n := by
  induction ds generalizing value with
  | nil => simp [digitsFrom?]
  | cons c ds ih =>
      rw [digitsFrom?, List.forall_mem_cons, Nat.ofDigitChars_cons]
      by_cases hc : c.isDigit = true
      · rw [if_pos hc, ih, Nat.mul_comm value 10]
        simp only [hc, true_and]
        rfl
      · simp [hc]

theorem natural?_eq_some_iff (n : Nat) (s : List Char) :
    natural? s = some n ↔ Digits s ∧ Nat.ofDigitChars 10 s 0 = n := by
  cases s with
  | nil => simp [natural?, Digits]
  | cons c s =>
      rw [natural?, digitsFrom?_eq_some_iff, Digits]
      simp

/-! ## 2. Integers -/

theorem integer?_of_digits {ds : List Char} (h : Digits ds) :
    integer? ds = (natural? ds).map Int.ofNat := by
  obtain ⟨c, t, rfl, hc, -⟩ := h.exists_cons
  obtain ⟨hplus, hminus⟩ := Json.not_sign_of_isDigit hc
  unfold integer?
  split
  next heq => exact absurd (List.cons.inj heq).1 hplus
  next heq => exact absurd (List.cons.inj heq).1 hminus
  next => rfl

/-- An integer is read exactly where one is written. -/
theorem integer?_eq_some_iff (n : Int) (s : List Char) :
    integer? s = some n ↔ WritesInteger n s := by
  constructor
  · intro h
    unfold integer? at h
    -- one case for each way to write a sign
    split at h <;> obtain ⟨m, hm, rfl⟩ := Option.map_eq_some_iff.mp h <;>
      obtain ⟨hdigits, rfl⟩ := (natural?_eq_some_iff m _).mp hm
    · exact .plus hdigits
    · exact .minus hdigits
    · exact .unsigned hdigits
  · intro h
    cases h with
    | unsigned hds =>
        rw [integer?_of_digits hds, (natural?_eq_some_iff _ _).mpr ⟨hds, rfl⟩]
        rfl
    | plus hds =>
        rw [integer?, (natural?_eq_some_iff _ _).mpr ⟨hds, rfl⟩]
        rfl
    | minus hds =>
        rw [integer?, (natural?_eq_some_iff _ _).mpr ⟨hds, rfl⟩]
        rfl

/-- Of the integers that are written those of 32 bits are read, whatever the length of the text. -/
theorem integer32?_eq_some_iff (n : Int) (s : List Char) :
    integer32? s = some n ↔ WritesInteger n s ∧ Fits32 n := by
  rw [integer32?, Option.filter_eq_some_iff, integer?_eq_some_iff, Fits32, Bool.and_eq_true,
    decide_eq_true_eq, decide_eq_true_eq]
  norm_num

theorem integer32?_eq_none_iff (s : List Char) :
    integer32? s = none ↔ ¬∃ n, WritesInteger n s ∧ Fits32 n := by
  rw [Option.eq_none_iff_forall_ne_some, not_exists]
  refine forall_congr' fun n => ?_
  rw [ne_eq, integer32?_eq_some_iff]

/-- A text is the writing of one integer at most. -/
theorem WritesInteger.unique {m n : Int} {s : List Char} (hm : WritesInteger m s)
    (hn : WritesInteger n s) : m = n := by
  rw [← integer?_eq_some_iff] at hm hn
  exact Option.some.inj (hm.symm.trans hn)

/-- No blank stands at either end of a written integer. -/
theorem WritesInteger.trimmed {n : Int} {s : List Char} (h : WritesInteger n s) : Trimmed s := by
  have hdigit (c : Char) (hc : c.isDigit = true) : isBlank c = false := by
    obtain ⟨hlow, hhigh⟩ := Json.digit_bounds hc
    unfold isBlank
    simp only [Bool.or_eq_false_iff, Bool.and_eq_false_iff, decide_eq_false_iff_not,
      beq_eq_false_iff_ne]
    omega
  -- neither a digit nor a sign is a blank
  refine trimmed_of_forall fun c hc => ?_
  cases h with
  | unsigned hds => exact hdigit c (hds.2 c hc)
  | plus hds =>
      rcases List.mem_cons.mp hc with rfl | hc
      · decide
      · exact hdigit c (hds.2 c hc)
  | minus hds =>
      rcases List.mem_cons.mp hc with rfl | hc
      · decide
      · exact hdigit c (hds.2 c hc)

/-- The decimal notation of an integer is one of its writings. -/
theorem writesInteger_toString (n : Int) : WritesInteger n (toString n).toList := by
  by_cases hn : 0 ≤ n
  · obtain ⟨m, rfl⟩ := Int.eq_ofNat_of_zero_le hn
    have hwrites := WritesInteger.unsigned (Json.whole_toDigits m).1
    rwa [Nat.ofDigitChars_toDigits (by decide) (by decide), ← Json.toList_toString_natCast]
      at hwrites
  · obtain ⟨m, rfl⟩ : ∃ m : Nat, n = -(m : Int) := ⟨n.natAbs, by omega⟩
    have hwrites := WritesInteger.minus (Json.whole_toDigits m).1
    rwa [Nat.ofDigitChars_toDigits (by decide) (by decide), ← Json.toList_toString_neg (by omega)]
      at hwrites

end ProcessLaunch.Text
