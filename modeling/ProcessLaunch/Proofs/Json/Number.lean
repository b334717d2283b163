import Mathlib.Data.List.Induction
import Mathlib.Tactic.IntervalCases
import ProcessLaunch.Json.Value
import ProcessLaunch.Proofs.Json.Reader

/-!
# Written numbers

Which texts are numbers, and which of them are integers that are kept exactly: those that are the
decimal notation of an integer.
-/

namespace ProcessLaunch.Json

open Reader

/-! ## 1. Ways of writing -/

def Digits (s : List Char) : Prop := s ≠ [] ∧ ∀ c ∈ s, c.isDigit = true

def Whole (s : List Char) : Prop := Digits s ∧ (s.head? = some '0' → s = ['0'])

inductive WritesFraction : List Char → List Char → Prop
  | absent : WritesFraction [] []
  | present {ds : List Char} (h : Digits ds) : WritesFraction ds ('.' :: ds)

inductive WritesSign : Int → List Char → Prop
  | absent : WritesSign 1 []
  | plus : WritesSign 1 ['+']
  | minus : WritesSign (-1) ['-']

inductive WritesExponent : Option Int → List Char → Prop
  | absent : WritesExponent none []
  | present {c : Char} {sign : Int} {t ds : List Char} (hc : c = 'e' ∨ c = 'E')
      (hsign : WritesSign sign t) (hds : Digits ds) :
      WritesExponent (some (sign * valueFrom 0 ds)) (c :: (t ++ ds))

/-- A number: a minus or nothing, digits, a fraction or none, an exponent or none. -/
inductive WritesLiteral : Literal → List Char → Prop
  | plain {w f fs es : List Char} {e : Option Int} (hw : Whole w) (hf : WritesFraction f fs)
      (he : WritesExponent e es) : WritesLiteral ⟨false, w, f, e⟩ (w ++ (fs ++ es))
  | minus {w f fs es : List Char} {e : Option Int} (hw : Whole w) (hf : WritesFraction f fs)
      (he : WritesExponent e es) : WritesLiteral ⟨true, w, f, e⟩ ('-' :: (w ++ (fs ++ es)))

/-! ## 2. Parts of a number -/

theorem Digits.exists_cons {s : List Char} (h : Digits s) :
    ∃ c t, s = c :: t ∧ c.isDigit = true ∧ ∀ d ∈ t, d.isDigit = true := by
  cases s with
  | nil => exact absurd rfl h.1
  | cons c t =>
    exact ⟨c, t, rfl, h.2 c List.mem_cons_self, fun d hd => h.2 d (List.mem_cons_of_mem _ hd)⟩

theorem run_takeWhile_append {p : Char → Bool} {s rest : List Char} (hs : ∀ c ∈ s, p c = true)
    (hrest : ∀ c ∈ rest.head?, p c = false) :
    (takeWhile p).run (s ++ rest) = .ok (s, rest) := by
  rw [run_takeWhile, List.takeWhile_append_of_pos hs, List.dropWhile_append_of_pos hs]
  cases rest with
  | nil => simp
  | cons c rest => simp [hrest c rfl]

theorem run_digits {ds rest : List Char} (h : Digits ds)
    (hrest : ∀ c ∈ rest.head?, c.isDigit = false) : digits.run (ds ++ rest) = .ok (ds, rest) := by
  obtain ⟨c, t, rfl, hc, ht⟩ := h.exists_cons
  simp only [digits, List.cons_append, run_bind, run_next_cons, hc, if_true, run_map,
    run_takeWhile_append ht hrest]

theorem digits_of_run {s ds rest : List Char} (h : digits.run s = .ok (ds, rest)) :
    Digits ds ∧ s = ds ++ rest := by
  simp only [digits, run_bind_eq_ok, run_next_eq_ok] at h
  obtain ⟨c, behind, rfl, h⟩ := h
  split at h
  next hc =>
    obtain ⟨t, ht, rfl⟩ := run_map_eq_ok.mp h
    rw [run_takeWhile, Except.ok.injEq, Prod.mk.injEq] at ht
    obtain ⟨rfl, rfl⟩ := ht
    refine ⟨⟨List.cons_ne_nil _ _, fun d hd => ?_⟩, by simp⟩
    rcases List.mem_cons.mp hd with rfl | hd
    · exact hc
    · exact List.all_eq_true.mp List.all_takeWhile d hd
  next => cases h

/-- A fraction is taken to its end, if neither a digit nor a point stands behind it. -/
theorem run_fraction {f fs rest : List Char} (h : WritesFraction f fs)
    (hrest : ∀ c ∈ rest.head?, c.isDigit = false ∧ c ≠ '.') :
    fraction.run (fs ++ rest) = .ok (f, rest) := by
  cases h with
  | absent =>
      cases rest with
      | nil => simp [fraction]
      | cons c rest =>
          have hc := (hrest c rfl).2
          simp only [fraction, run_bind, run_peek?, List.nil_append, List.head?_cons]
          split
          next h => simp_all
          next => rfl
  | present h =>
      have hrun := run_digits h fun c hc => (hrest c hc).1
      simp [fraction, expect, hrun]

theorem fraction_of_run {s f rest : List Char} (h : fraction.run s = .ok (f, rest)) :
    ∃ fs, WritesFraction f fs ∧ s = fs ++ rest := by
  simp only [fraction, run_bind, run_peek?] at h
  split at h
  next =>
    rw [run_bind_eq_ok] at h
    obtain ⟨_, behind, hexpect, hdigits⟩ := h
    obtain ⟨hds, rfl⟩ := digits_of_run hdigits
    exact ⟨'.' :: f, .present hds, run_expect_eq_ok.mp hexpect⟩
  next =>
    obtain ⟨rfl, rfl⟩ := run_pure_eq_ok.mp h
    exact ⟨[], .absent, rfl⟩

/-- A sign is taken, or none where none stands. -/
theorem run_exponentSign {sign : Int} {t rest : List Char} (h : WritesSign sign t)
    (hrest : ∀ c ∈ rest.head?, c ≠ '+' ∧ c ≠ '-') :
    exponentSign.run (t ++ rest) = .ok (sign, rest) := by
  cases h with
  | absent =>
      cases rest with
      | nil => rfl
      | cons c rest =>
          obtain ⟨hplus, hminus⟩ := hrest c rfl
          simp only [exponentSign, run_bind, run_peek?, List.nil_append, List.head?_cons]
          split <;> simp_all
  | plus => simp [exponentSign, expect]
  | minus => simp [exponentSign, expect]

theorem exponentSign_of_run {s rest : List Char} {sign : Int}
    (h : exponentSign.run s = .ok (sign, rest)) : ∃ t, WritesSign sign t ∧ s = t ++ rest := by
  simp only [exponentSign, run_bind, run_peek?] at h
  split at h
  next =>
    simp only [run_bind_eq_ok, run_expect_eq_ok, run_pure_eq_ok] at h
    obtain ⟨-, _, rfl, rfl, rfl⟩ := h
    exact ⟨['+'], .plus, rfl⟩
  next =>
    simp only [run_bind_eq_ok, run_expect_eq_ok, run_pure_eq_ok] at h
    obtain ⟨-, _, rfl, rfl, rfl⟩ := h
    exact ⟨['-'], .minus, rfl⟩
  next =>
    obtain ⟨rfl, rfl⟩ := run_pure_eq_ok.mp h
    exact ⟨[], .absent, rfl⟩

theorem WritesFraction.eq_nil {fs : List Char} (h : WritesFraction [] fs) : fs = [] := by
  cases h with
  | absent => rfl
  | present h => exact absurd rfl h.1

theorem not_sign_of_isDigit {c : Char} (h : c.isDigit = true) : c ≠ '+' ∧ c ≠ '-' := by
  constructor <;> rintro rfl <;> exact absurd h (by decide)

theorem run_exponent? {e : Option Int} {es rest : List Char} (h : WritesExponent e es)
    (hrest : Ended rest) : exponent?.run (es ++ rest) = .ok (e, rest) := by
  -- without an exponent, what follows must not look like one
  cases h with
  | absent =>
      cases rest with
      | nil => rfl
      | cons c rest =>
          have hmark := (hrest c rfl).2
          simp only [List.mem_cons, List.not_mem_nil, or_false, not_or] at hmark
          simp [exponent?, hmark]
  | @present c sign t ds hc hsign hds =>
      obtain ⟨d, ds', rfl, hd, -⟩ := hds.exists_cons
      have hdigits := run_digits hds fun c hc => (hrest c hc).1
      have hsignRun :
          exponentSign.run (t ++ (d :: ds' ++ rest)) = .ok (sign, d :: ds' ++ rest) := by
        refine run_exponentSign hsign fun c hc => ?_
        obtain rfl := Option.mem_some.mp hc
        exact not_sign_of_isDigit hd
      have hexpect (s : List Char) : (expect c).run (c :: s) = .ok ((), s) :=
        run_expect_eq_ok.mpr rfl
      simp only [exponent?, run_bind, run_peek?, List.cons_append, List.head?_cons, hc, if_true,
        hexpect, List.append_assoc] at hsignRun hdigits ⊢
      simp only [hsignRun, hdigits, run_pure]

theorem exponent?_of_run {s rest : List Char} {e : Option Int}
    (h : exponent?.run s = .ok (e, rest)) : ∃ es, WritesExponent e es ∧ s = es ++ rest := by
  simp only [exponent?, run_bind, run_peek?] at h
  split at h
  next c =>
    split at h
    next hc =>
      simp only [run_bind_eq_ok, run_expect_eq_ok, run_pure_eq_ok] at h
      obtain ⟨-, _, rfl, sign, _, hsign, ds, _, hds, rfl, rfl⟩ := h
      obtain ⟨t, ht, rfl⟩ := exponentSign_of_run hsign
      obtain ⟨hdigits, rfl⟩ := digits_of_run hds
      exact ⟨_, .present hc ht hdigits, by simp⟩
    next =>
      obtain ⟨rfl, rfl⟩ := run_pure_eq_ok.mp h
      exact ⟨[], .absent, rfl⟩
  next =>
    obtain ⟨rfl, rfl⟩ := run_pure_eq_ok.mp h
    exact ⟨[], .absent, rfl⟩

/-! ## 3. Numbers -/

/-- A number is taken to its end, part by part. -/
theorem run_unsignedFrom (negative : Bool) {c : Char} {w f fs es rest : List Char} {e : Option Int}
    (hw : Whole (c :: w)) (hf : WritesFraction f fs) (he : WritesExponent e es)
    (hrest : Ended rest) :
    (unsignedFrom negative c).run (w ++ (fs ++ (es ++ rest))) =
      .ok (⟨negative, c :: w, f, e⟩, rest) := by
  -- neither an exponent nor what stands behind the number goes on with digits or a point
  have hexponent : ∀ d ∈ (es ++ rest).head?, d.isDigit = false ∧ d ≠ '.' := by
    intro d hd
    cases he with
    | absent => exact ⟨(hrest d hd).1, fun h => (hrest d hd).2 (by simp [h])⟩
    | present hc =>
        obtain rfl := Option.mem_some.mp hd
        rcases hc with rfl | rfl <;> decide
  have hfraction : ∀ d ∈ (fs ++ (es ++ rest)).head?, d.isDigit = false := by
    intro d hd
    cases hf with
    | absent => exact (hexponent d hd).1
    | present =>
        obtain rfl := Option.mem_some.mp hd
        decide
  have hc : c.isDigit = true := hw.1.2 c List.mem_cons_self
  have hmore : ∀ d ∈ w, d.isDigit = true := fun d hd => hw.1.2 d (List.mem_cons_of_mem _ hd)
  have hzero : ¬(c = '0' ∧ w ≠ []) := by
    rintro ⟨rfl, hne⟩
    exact hne (List.cons.inj (hw.2 rfl)).2
  simp only [unsignedFrom, hc, Bool.not_true, Bool.false_eq_true, if_false, run_bind,
    run_takeWhile_append hmore hfraction, hzero, run_fraction hf hexponent,
    run_exponent? he hrest, run_pure]

/-- What is taken as a number is one as it is written, without a zero in front of other digits. -/
theorem unsignedFrom_of_run {negative : Bool} {c : Char} {s rest : List Char} {l : Literal}
    (h : (unsignedFrom negative c).run s = .ok (l, rest)) :
    ∃ w f fs e es, l = ⟨negative, c :: w, f, e⟩ ∧ Whole (c :: w) ∧ WritesFraction f fs ∧
      WritesExponent e es ∧ s = w ++ (fs ++ (es ++ rest)) := by
  rw [unsignedFrom] at h
  split at h
  next => cases h
  next hc =>
    rw [run_bind_eq_ok] at h
    obtain ⟨w, behind, hw, h⟩ := h
    rw [run_takeWhile, Except.ok.injEq, Prod.mk.injEq] at hw
    split at h
    next => cases h
    next hzero =>
      simp only [run_bind_eq_ok, run_pure_eq_ok] at h
      obtain ⟨f, _, hf, e, _, he, rfl, rfl⟩ := h
      obtain ⟨fs, hfs, rfl⟩ := fraction_of_run hf
      obtain ⟨es, hes, rfl⟩ := exponent?_of_run he
      refine ⟨w, f, fs, e, es, rfl, ⟨⟨List.cons_ne_nil _ _, fun d hd => ?_⟩, fun hd => ?_⟩, hfs,
        hes, ?_⟩
      · rcases List.mem_cons.mp hd with rfl | hd
        · simpa using hc
        · exact List.all_eq_true.mp (hw.1 ▸ List.all_takeWhile) d hd
      -- the reader refuses a digit behind a leading zero
      · have hcz : c = '0' := Option.some.inj hd
        have hnil : w = [] := by
          by_contra hne
          exact hzero ⟨hcz, hne⟩
        rw [hcz, hnil]
      · rw [← List.takeWhile_append_dropWhile (p := Char.isDigit) (l := s), hw.1, hw.2]

theorem WritesLiteral.exists_cons {l : Literal} {s : List Char} (h : WritesLiteral l s) :
    ∃ c t, s = c :: t ∧ (c = '-' ∨ c.isDigit = true) := by
  cases h with
  | plain hw =>
      obtain ⟨c, w, rfl, hc, -⟩ := hw.1.exists_cons
      exact ⟨c, _, rfl, .inr hc⟩
  | minus => exact ⟨'-', _, rfl, .inl rfl⟩

theorem WritesLiteral.unspaced {l : Literal} {s : List Char} (h : WritesLiteral l s) :
    Unspaced s := by
  obtain ⟨c, t, rfl, rfl | hc⟩ := h.exists_cons
  · exact unspaced_cons (by decide)
  · refine unspaced_cons (Bool.eq_false_iff.mpr fun hspace => ?_)
    rw [(not_digit_of_isSpace hspace).1] at hc
    cases hc

/-- A number is read exactly where one is written. -/
theorem reads_literal : (do literalFrom (← next)).Reads WritesLiteral where
  sound {s l rest} h := by
    simp only [run_bind_eq_ok, run_next_eq_ok, literalFrom] at h
    obtain ⟨c, behind, rfl, h⟩ := h
    split at h
    next hc =>
      simp only [run_bind_eq_ok, run_next_eq_ok] at h
      obtain ⟨d, behind, rfl, h⟩ := h
      obtain ⟨w, f, fs, e, es, rfl, hw, hf, he, rfl⟩ := unsignedFrom_of_run h
      exact ⟨_, .minus hw hf he, by simp [hc]⟩
    next =>
      obtain ⟨w, f, fs, e, es, rfl, hw, hf, he, rfl⟩ := unsignedFrom_of_run h
      exact ⟨_, .plain hw hf he, by simp⟩
  complete := by
    intro l t ht rest hrest
    -- the first character tells a minus from a digit
    cases ht with
    | @plain w f fs es e hw hf he =>
        obtain ⟨c, w, rfl, hc, -⟩ := hw.1.exists_cons
        have hrun := run_unsignedFrom false hw hf he hrest
        simp only [run_bind, List.cons_append, run_next_cons, List.append_assoc, literalFrom,
          (not_sign_of_isDigit hc).2, if_false, hrun]
    | @minus w f fs es e hw hf he =>
        obtain ⟨c, w, rfl, hc, -⟩ := hw.1.exists_cons
        have hrun := run_unsignedFrom true hw hf he hrest
        simp only [run_bind, List.cons_append, run_next_cons, List.append_assoc, literalFrom,
          if_true, hrun]

/-! ## 4. Decimal notation -/

theorem valueFrom_eq (n : Nat) (ds : List Char) : valueFrom n ds = Nat.ofDigitChars 10 ds n := by
  simp only [valueFrom, Nat.ofDigitChars, Nat.mul_comm 10]
  rfl

theorem valueFrom_toDigits (n : Nat) : valueFrom 0 (Nat.toDigits 10 n) = n := by
  rw [valueFrom_eq, Nat.ofDigitChars_toDigits (by decide) (by decide)]

/-- The last digit of a number counts once, and all before it ten times. -/
theorem valueFrom_concat (n : Nat) (ds : List Char) (c : Char) :
    valueFrom n (ds ++ [c]) = valueFrom n ds * 10 + (c.toNat - 0x30) := by
  simp [valueFrom]

theorem digit_bounds {c : Char} (h : c.isDigit = true) : 0x30 ≤ c.toNat ∧ c.toNat ≤ 0x39 := by
  simp only [Char.isDigit, Bool.and_eq_true, decide_eq_true_eq] at h
  exact h

theorem digitChar_of_isDigit {c : Char} (h : c.isDigit = true) :
    (c.toNat - 0x30).digitChar = c := by
  obtain ⟨hlow, hhigh⟩ := digit_bounds h
  have hself : Char.ofNat c.toNat = c := Char.ofNat_toNat c
  generalize c.toNat = n at *
  subst hself
  interval_cases n <;> rfl

theorem le_valueFrom (n : Nat) (ds : List Char) : n ≤ valueFrom n ds := by
  induction ds generalizing n with
  | nil => exact Nat.le_refl n
  | cons d ds ih => exact Nat.le_trans (by omega) (ih (n * 10 + (d.toNat - 0x30)))

theorem valueFrom_pos {c : Char} {w : List Char} (h : Whole (c :: w)) (hc : c ≠ '0') :
    0 < valueFrom 0 (c :: w) := by
  have hdigit := digit_bounds (h.1.2 c List.mem_cons_self)
  have hzero : c.toNat ≠ 0x30 := fun heq => hc (Char.toNat_inj.mp heq)
  -- the first digit is worth something, and nothing behind it makes the number less
  have hfirst : 0 * 10 + (c.toNat - 0x30) ≤ valueFrom 0 (c :: w) := le_valueFrom _ w
  omega

/-- Digits without a leading zero are the decimal notation of what they are worth. -/
theorem toDigits_valueFrom {w : List Char} (h : Whole w) : Nat.toDigits 10 (valueFrom 0 w) = w := by
  induction w using List.reverseRecOn with
  | nil => exact absurd rfl h.1.1
  | append_singleton w d ih =>
      have hd : d.isDigit = true := h.1.2 d (by simp)
      obtain ⟨hlow, hhigh⟩ := digit_bounds hd
      rw [valueFrom_concat]
      -- one digit is a number by itself; of more, the ones in front make a smaller number
      cases w with
      | nil =>
          have hvalue : valueFrom 0 [] * 10 + (d.toNat - 0x30) = d.toNat - 0x30 := by
            simp [valueFrom]
          rw [hvalue, Nat.toDigits_of_lt_base (by omega), digitChar_of_isDigit hd, List.nil_append]
      | cons c w =>
          have hc : c ≠ '0' := by
            rintro rfl
            simpa using h.2 rfl
          have hwhole : Whole (c :: w) :=
            ⟨⟨List.cons_ne_nil _ _, fun e he => h.1.2 e (List.mem_append_left _ he)⟩,
              fun hhead => absurd (Option.some.inj hhead) hc⟩
          have hpos := valueFrom_pos hwhole hc
          rw [Nat.toDigits_of_base_le (by decide) (by omega),
            show (valueFrom 0 (c :: w) * 10 + (d.toNat - 0x30)) / 10 = valueFrom 0 (c :: w) by
              omega,
            show (valueFrom 0 (c :: w) * 10 + (d.toNat - 0x30)) % 10 = d.toNat - 0x30 by omega,
            ih hwhole, digitChar_of_isDigit hd]

/-- No number is written with a zero in front. -/
theorem whole_toDigits (n : Nat) : Whole (Nat.toDigits 10 n) := by
  refine ⟨⟨List.ne_nil_of_length_pos Nat.length_toDigits_pos, fun c hc =>
    Nat.isDigit_of_mem_toDigits (by decide) (by decide) hc⟩, fun h => ?_⟩
  induction n using Nat.strongRecOn with
  | ind n ih =>
      by_cases hn : n < 10
      · rw [Nat.toDigits_of_lt_base hn] at h ⊢
        exact congrArg (fun c => [c]) (Option.some.inj h)
      · -- the leading digit is that of a smaller number, which would have to be zero
        rw [Nat.toDigits_of_base_le (by decide) (by omega)] at h
        have hne : Nat.toDigits 10 (n / 10) ≠ [] :=
          List.ne_nil_of_length_pos Nat.length_toDigits_pos
        have hhead : (Nat.toDigits 10 (n / 10)).head? = some '0' := by
          obtain ⟨c, t, ht⟩ := List.exists_cons_of_ne_nil hne
          rw [ht] at h ⊢
          exact h
        have hzero := congrArg (valueFrom 0) (ih (n / 10) (by omega) hhead)
        rw [valueFrom_toDigits] at hzero
        have : valueFrom 0 ['0'] = 0 := rfl
        omega

theorem toList_toString_natCast (n : Nat) : (toString (n : Int)).toList = Nat.toDigits 10 n := by
  show (Nat.repr n).toList = _
  rw [Nat.repr_eq_ofList_toDigits, String.toList_ofList]

theorem toList_toString_neg {n : Nat} (h : 0 < n) :
    (toString (-(n : Int))).toList = '-' :: Nat.toDigits 10 n := by
  show (Int.repr (-(n : Int))).toList = _
  rw [Int.repr_eq_if, if_neg (by omega), Int.neg_neg, Int.toNat_natCast, String.toList_append,
    Nat.repr_eq_ofList_toDigits]
  show ['-'] ++ (String.ofList (Nat.toDigits 10 n)).toList = _
  rw [String.toList_ofList, List.singleton_append]

theorem exists_cons_toString (n : Int) :
    ∃ c t, (toString n).toList = c :: t ∧ (c = '-' ∨ c.isDigit = true) := by
  by_cases hn : 0 ≤ n
  · obtain ⟨m, rfl⟩ := Int.eq_ofNat_of_zero_le hn
    obtain ⟨c, t, hm, hc, -⟩ := (whole_toDigits m).1.exists_cons
    exact ⟨c, t, (toList_toString_natCast m).trans hm, .inr hc⟩
  · obtain ⟨m, rfl⟩ : ∃ m : Nat, n = -(m : Int) := ⟨n.natAbs, by omega⟩
    exact ⟨'-', _, toList_toString_neg (by omega), .inl rfl⟩

/-- No two integers have the same decimal notation. -/
theorem toList_toString_inj {i j : Int} (h : (toString i).toList = (toString j).toList) :
    i = j := by
  have hminus (n : Nat) (t : List Char) : Nat.toDigits 10 n ≠ '-' :: t := by
    intro hn
    have hdigit := (whole_toDigits n).1.2 '-' (hn ▸ List.mem_cons_self)
    revert hdigit
    decide
  have hvalue {m n : Nat} (hmn : Nat.toDigits 10 m = Nat.toDigits 10 n) : m = n := by
    rw [← valueFrom_toDigits m, hmn, valueFrom_toDigits]
  -- a minus stands in front of negative integers only
  by_cases hi : 0 ≤ i <;> by_cases hj : 0 ≤ j
  · obtain ⟨m, rfl⟩ := Int.eq_ofNat_of_zero_le hi
    obtain ⟨n, rfl⟩ := Int.eq_ofNat_of_zero_le hj
    rw [toList_toString_natCast, toList_toString_natCast] at h
    rw [hvalue h]
  · obtain ⟨m, rfl⟩ := Int.eq_ofNat_of_zero_le hi
    obtain ⟨n, rfl⟩ : ∃ n : Nat, j = -(n : Int) := ⟨j.natAbs, by omega⟩
    rw [toList_toString_natCast, toList_toString_neg (by omega)] at h
    exact absurd h (hminus m _)
  · obtain ⟨m, rfl⟩ : ∃ m : Nat, i = -(m : Int) := ⟨i.natAbs, by omega⟩
    obtain ⟨n, rfl⟩ := Int.eq_ofNat_of_zero_le hj
    rw [toList_toString_natCast, toList_toString_neg (by omega)] at h
    exact absurd h.symm (hminus n _)
  · obtain ⟨m, rfl⟩ : ∃ m : Nat, i = -(m : Int) := ⟨i.natAbs, by omega⟩
    obtain ⟨n, rfl⟩ : ∃ n : Nat, j = -(n : Int) := ⟨j.natAbs, by omega⟩
    rw [toList_toString_neg (by omega), toList_toString_neg (by omega)] at h
    rw [hvalue (List.cons.inj h).2]

/-! ## 5. Integers -/

/-- An integer that is kept exactly has been written in its decimal notation. -/
theorem toList_toString_of_number? {l : Literal} {s : List Char} {number : Number} {n : Int}
    (h : WritesLiteral l s) (hnumber : l.number? = some number) (hn : number.integer? = some n) :
    s = (toString n).toList := by
  rw [Literal.number?] at hnumber
  split at hnumber
  next hnatural =>
    obtain ⟨⟨hf, he⟩, hsign, -⟩ := hnatural
    cases hnumber
    obtain rfl := Option.some.inj hn
    cases h with
    | plain hw hf' he' =>
        cases hf
        cases he
        cases he'
        rw [hf'.eq_nil, toList_toString_natCast, toDigits_valueFrom hw, List.append_nil,
          List.append_nil]
    | minus => cases hsign
  next =>
    split at hnumber
    next hnegative =>
      obtain ⟨⟨hf, he⟩, hsign, hpos, -⟩ := hnegative
      cases hnumber
      obtain rfl := Option.some.inj hn
      cases h with
      | plain => cases hsign
      | minus hw hf' he' =>
          cases hf
          cases he
          cases he'
          rw [hf'.eq_nil, toList_toString_neg hpos, toDigits_valueFrom hw, List.append_nil,
            List.append_nil]
    next =>
      -- what is neither is a binary number, and that is no integer
      obtain ⟨magnitude, -, rfl⟩ := Option.map_eq_some_iff.mp hnumber
      cases hn

/-- The decimal notation of an integer that can be kept is read as that integer. -/
theorem exists_literal_toString {n : Int} (hlow : -(Number.maxNegative : Int) ≤ n)
    (hhigh : n ≤ Number.maxNatural) :
    ∃ l number, WritesLiteral l (toString n).toList ∧ l.number? = some number ∧
      number.integer? = some n := by
  by_cases hn : 0 ≤ n
  · obtain ⟨m, rfl⟩ := Int.eq_ofNat_of_zero_le hn
    refine ⟨⟨false, Nat.toDigits 10 m, [], none⟩, .natural m, ?_, ?_, rfl⟩
    · rw [toList_toString_natCast]
      simpa using WritesLiteral.plain (whole_toDigits m) .absent .absent
    · rw [Literal.number?, valueFrom_toDigits, if_pos ⟨⟨rfl, rfl⟩, rfl, by omega⟩]
  · obtain ⟨m, rfl⟩ : ∃ m : Nat, n = -(m : Int) := ⟨n.natAbs, by omega⟩
    have hpos : 0 < m := by omega
    refine ⟨⟨true, Nat.toDigits 10 m, [], none⟩, .negative m, ?_, ?_, rfl⟩
    · rw [toList_toString_neg hpos]
      simpa using WritesLiteral.minus (whole_toDigits m) .absent .absent
    · rw [Literal.number?, valueFrom_toDigits, if_neg (by simp),
        if_pos ⟨⟨rfl, rfl⟩, rfl, hpos, by omega⟩]

end ProcessLaunch.Json
