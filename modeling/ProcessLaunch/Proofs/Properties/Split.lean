import ProcessLaunch.Proofs.Properties.UnitRun

/-!
# Keys and values of a line

A line falls into the spelling of a key, a separator and the spelling of a value, and in one way
only.  The cuts go through no escape, so that unescaping the parts comes to unescaping the line.
-/

namespace ProcessLaunch.Properties

open Text

/-- Every separator in a text stands behind a backslash, as the text is read from the left. -/
def Unseparated (s : List Char) : Prop :=
  ∀ before c after, s = before ++ c :: after → endsEscaped before = false → isSeparator c = false

/-- Blanks with at most one equals sign or colon among them. -/
inductive Separates : List Char → Prop
  | mk {before mark after : List Char} (hbefore : ∀ c ∈ before, isBlank c = true)
      (hmark : mark ∈ [[], ['='], [':']]) (hafter : ∀ c ∈ after, isBlank c = true) :
      Separates (before ++ mark ++ after)

/-- A line cut into the spelling of a key, a separator and the spelling of a value. -/
structure IsSplit (line key separator value : List Char) : Prop where
  joined : key ++ separator ++ value = line
  unseparated : Unseparated key
  whole : separator = [] → key = line
  unescaped : separator ≠ [] → endsEscaped key = false
  separates : Separates separator
  begun : ∀ c rest, value = c :: rest → isBlank c = false
  unmarked : '=' ∉ separator → ':' ∉ separator → ∀ c rest, value = c :: rest → c ∉ ['=', ':']

/-- An escaped character, or a row of escaped units such as the two halves of a pair. -/
inductive IsEscape : List Char → Prop
  | character (c : Char) : IsEscape ['\\', c]
  | units {unit : Nat} {units : List Nat} {s : List Char} (h : SpellsUnits (unit :: units) s) :
      IsEscape s

/-! ## 1. The key -/

theorem ne_backslash_of_isSeparator {c : Char} (h : isSeparator c = true) : c ≠ '\\' := by
  rintro rfl
  cases h

theorem unseparated_nil : Unseparated [] := by
  intro before c after h
  simp at h

theorem unseparated_backslash : Unseparated ['\\'] := by
  intro before c after h _
  cases before with
  | nil =>
      obtain ⟨rfl, -⟩ := List.cons.inj h
      rfl
  | cons d before => simp at h

/-- What stands behind a backslash is no separator. -/
theorem unseparated_escaped {c : Char} {s : List Char} :
    Unseparated ('\\' :: c :: s) ↔ Unseparated s := by
  constructor
  · rintro h before d after rfl hbefore
    exact h ('\\' :: c :: before) d after rfl hbefore
  · intro h before d after heq hbefore
    rcases cut_escaped heq hbefore with rfl | ⟨front, rfl, hs, hfront⟩
    · obtain ⟨rfl, -⟩ := List.cons.inj heq
      rfl
    · exact h front d after hs hfront

theorem unseparated_cons {c : Char} (hc : c ≠ '\\') {s : List Char} :
    Unseparated (c :: s) ↔ isSeparator c = false ∧ Unseparated s := by
  constructor
  · intro h
    refine ⟨h [] c s rfl rfl, ?_⟩
    rintro before d after rfl hbefore
    exact h (c :: before) d after rfl (by rwa [endsEscaped_cons hc])
  · rintro ⟨hplain, h⟩ before d after heq hbefore
    rcases cut_cons hc heq hbefore with rfl | ⟨front, rfl, hs, hfront⟩
    · obtain ⟨rfl, -⟩ := List.cons.inj heq
      exact hplain
    · exact h front d after hs hfront

def EndsKey (key rest : List Char) : Prop :=
  ∀ c more, rest = c :: more → endsEscaped key = false ∧ isSeparator c = true

/-- No separator is left in the key that is spanned. -/
theorem unseparated_spanKey (line : List Char) : Unseparated (spanKey line).1 := by
  fun_induction spanKey line with
  | case1 => exact unseparated_nil
  | case2 => exact unseparated_backslash
  | case3 c rest key value heq ih =>
      rw [heq] at ih
      exact unseparated_escaped.mpr ih
  | case4 => exact unseparated_nil
  | case5 c rest hlast hmore hplain key value heq ih =>
      rw [heq] at ih
      rw [Bool.not_eq_true] at hplain
      exact (unseparated_cons (ne_backslash hlast hmore)).mpr ⟨hplain, ih⟩

/-- The key goes up to the first separator that is not escaped. -/
theorem endsKey_spanKey (line : List Char) : EndsKey (spanKey line).1 (spanKey line).2 := by
  fun_induction spanKey line with
  | case1 => exact fun _ _ h => by cases h
  | case2 => exact fun _ _ h => by cases h
  | case3 c rest key value heq ih =>
      rw [heq] at ih
      exact ih
  -- the span stops at this separator
  | case4 c rest hlast hmore hseparator =>
      intro d more hd
      obtain ⟨rfl, -⟩ := List.cons.inj hd
      exact ⟨rfl, hseparator⟩
  | case5 c rest hlast hmore hplain key value heq ih =>
      rw [heq] at ih
      intro d more hd
      rw [endsEscaped_cons (ne_backslash hlast hmore)]
      exact ih d more hd

theorem spanKey_of_separator {c : Char} (h : isSeparator c = true) (rest : List Char) :
    spanKey (c :: rest) = ([], c :: rest) := by
  have hc := ne_backslash_of_isSeparator h
  rw [spanKey, if_pos h]
  · exact fun h => absurd h hc
  · exact fun _ _ h => absurd h hc

/-- A key without separators is spanned to its end. -/
theorem spanKey_of_unseparated {key rest : List Char} (hkey : Unseparated key)
    (hrest : EndsKey key rest) : spanKey (key ++ rest) = (key, rest) := by
  fun_induction endsEscaped key with
  | case1 =>
      cases rest with
      | nil => rfl
      | cons c rest => exact spanKey_of_separator (hrest c rest rfl).2 rest
  | case2 =>
      -- a separator behind the backslash would be escaped
      cases rest with
      | nil => rfl
      | cons c rest => cases (hrest c rest rfl).1
  | case3 c key ih =>
      rw [List.cons_append, List.cons_append, spanKey, ih (unseparated_escaped.mp hkey) hrest]
  | case4 c key hlast hmore ih =>
      have hc := ne_backslash hlast hmore
      obtain ⟨hplain, hkey⟩ := (unseparated_cons hc).mp hkey
      have hrest' : EndsKey key rest := by
        intro d more hd
        rw [← endsEscaped_cons hc]
        exact hrest d more hd
      rw [List.cons_append, spanKey, ih hkey hrest', if_neg (by simp [hplain])]
      · exact fun h => absurd h hc
      · exact fun _ _ h => absurd h hc

/-! ## 2. The separator -/

theorem isBlank_separator {c : Char} (h : c ∈ ['=', ':']) : isBlank c = false := by
  simp only [List.mem_cons, List.not_mem_nil, or_false] at h
  rcases h with rfl | rfl <;> decide

/-- Behind a mark, blanks are dropped and nothing else. -/
theorem dropSeparator_mark {before : List Char} (hbefore : ∀ c ∈ before, isBlank c = true)
    {mark : Char} (hmark : mark ∈ ['=', ':']) (rest : List Char) :
    dropSeparator (before ++ mark :: rest) = trimStart rest := by
  rw [dropSeparator, trimStart_append hbefore, trimStart_cons (isBlank_separator hmark)]
  simp only [List.mem_cons, List.not_mem_nil, or_false] at hmark
  rcases hmark with rfl | rfl <;> rfl

theorem dropSeparator_of_unmarked {s : List Char}
    (h : ∀ c rest, trimStart s = c :: rest → c ∉ ['=', ':']) : dropSeparator s = trimStart s := by
  unfold dropSeparator
  split
  next rest heq => exact absurd (by simp) (h '=' rest heq)
  next rest heq => exact absurd (by simp) (h ':' rest heq)
  next => rfl

theorem trimStart_of_begun {s : List Char} (h : ∀ c rest, s = c :: rest → isBlank c = false) :
    trimStart s = s := by
  cases s with
  | nil => rfl
  | cons c s => exact trimStart_cons (h c s rfl) s

theorem exists_blanks (s : List Char) :
    ∃ blanks, (∀ c ∈ blanks, isBlank c = true) ∧ s = blanks ++ trimStart s := by
  refine ⟨s.takeWhile isBlank, ?_, List.takeWhile_append_dropWhile.symm⟩
  exact List.all_eq_true.mp List.all_takeWhile

theorem isSeparator_of_mem {separator : List Char} (h : Separates separator) {c : Char}
    (hc : c ∈ separator) : isSeparator c = true := by
  obtain ⟨hbefore, hmark, hafter⟩ := h
  have hblank {d : Char} (hd : isBlank d = true) : isSeparator d = true := by
    rw [isSeparator, hd, Bool.or_true]
  rw [List.mem_append, List.mem_append] at hc
  rcases hc with (hc | hc) | hc
  · exact hblank (hbefore c hc)
  · simp only [List.mem_cons, List.not_mem_nil, or_false] at hmark
    rcases hmark with rfl | rfl | rfl
    · cases hc
    · rw [List.mem_singleton.mp hc]
      rfl
    · rw [List.mem_singleton.mp hc]
      rfl
  · exact hblank (hafter c hc)

/-- What stands behind a key falls into a separator and the value. -/
theorem exists_separator (rest : List Char) :
    ∃ separator, Separates separator ∧ separator ++ dropSeparator rest = rest ∧
      (∀ c more, dropSeparator rest = c :: more → isBlank c = false) ∧
      ('=' ∉ separator → ':' ∉ separator →
        ∀ c more, dropSeparator rest = c :: more → c ∉ ['=', ':']) := by
  obtain ⟨before, hbefore, hrest⟩ := exists_blanks rest
  -- the separator has a mark in it or is all blank
  by_cases hmarked : ∃ mark behind, trimStart rest = mark :: behind ∧ mark ∈ ['=', ':']
  · obtain ⟨mark, behind, heq, hmark⟩ := hmarked
    obtain ⟨after, hafter, hbehind⟩ := exists_blanks behind
    have hvalue : dropSeparator rest = trimStart behind := by
      rw [hrest, heq, dropSeparator_mark hbefore hmark]
    refine ⟨before ++ [mark] ++ after, .mk hbefore (by simpa using hmark) hafter, ?_, ?_, ?_⟩
    · rw [hvalue, List.append_assoc, ← hbehind, List.append_assoc, List.singleton_append, ← heq,
        ← hrest]
    · rw [hvalue]
      exact fun c more h => isBlank_head_trimStart h
    · intro hequals hcolon
      simp only [List.mem_cons, List.not_mem_nil, or_false] at hmark
      rcases hmark with rfl | rfl
      · simp at hequals
      · simp at hcolon
  · have hplain : ∀ c more, trimStart rest = c :: more → c ∉ ['=', ':'] :=
      fun c more h hmark => hmarked ⟨c, more, h, hmark⟩
    have hvalue := dropSeparator_of_unmarked hplain
    have hseparates : Separates (before ++ [] ++ []) := .mk hbefore (by simp) (by simp)
    rw [List.append_nil, List.append_nil] at hseparates
    rw [hvalue]
    exact ⟨before, hseparates, hrest.symm, fun c more h => isBlank_head_trimStart h,
      fun _ _ => hplain⟩

/-- What stands between key and value is dropped, and no more than that. -/
theorem dropSeparator_append {separator value : List Char} (h : Separates separator)
    (hbegun : ∀ c rest, value = c :: rest → isBlank c = false)
    (hunmarked : '=' ∉ separator → ':' ∉ separator → ∀ c rest, value = c :: rest → c ∉ ['=', ':']) :
    dropSeparator (separator ++ value) = value := by
  obtain ⟨hbefore, hmark, hafter⟩ := h
  rename_i before mark after
  have hblank (c : Char) (hc : c ∈ ['=', ':']) : c ∉ before ++ after := by
    intro hmem
    have hc' := isBlank_separator hc
    rw [(List.mem_append.mp hmem).elim (hbefore c) (hafter c)] at hc'
    cases hc'
  have hvalue := trimStart_of_begun hbegun
  simp only [List.mem_cons, List.not_mem_nil, or_false] at hmark
  rcases hmark with rfl | rfl | rfl
  -- with blanks alone, a mark at the front of the value would be taken for the separator
  · have htrim : trimStart (before ++ [] ++ after ++ value) = value := by
      rw [List.append_nil, List.append_assoc, trimStart_append hbefore, trimStart_append hafter,
        hvalue]
    rw [List.append_nil] at hunmarked
    rw [dropSeparator_of_unmarked, htrim]
    rw [htrim]
    exact hunmarked (hblank _ (by simp)) (hblank _ (by simp))
  · rw [List.append_assoc, List.append_assoc, List.singleton_append,
      dropSeparator_mark hbefore (by simp), trimStart_append hafter, hvalue]
  · rw [List.append_assoc, List.append_assoc, List.singleton_append,
      dropSeparator_mark hbefore (by simp), trimStart_append hafter, hvalue]

/-! ## 3. The two cuts -/

namespace IsSplit

variable {line key separator value : List Char}

/-- Without a separator the key is the whole line, and nothing is left for the value. -/
theorem value_eq_nil (h : IsSplit line key separator value) (hnil : separator = []) :
    value = [] := by
  have hjoined := h.joined
  rwa [hnil, List.append_nil, h.whole hnil, List.append_right_eq_self] at hjoined

theorem endsKey (h : IsSplit line key separator value) : EndsKey key (separator ++ value) := by
  intro c more hc
  cases hseparator : separator with
  | nil =>
      rw [h.value_eq_nil hseparator, hseparator] at hc
      cases hc
  | cons d rest =>
      rw [hseparator, List.cons_append] at hc
      obtain ⟨rfl, -⟩ := List.cons.inj hc
      have hd : d ∈ separator := by simp [hseparator]
      exact ⟨h.unescaped (List.ne_nil_of_mem hd), isSeparator_of_mem h.separates hd⟩

/-- A line that is cut at all is cut into what it is read as. -/
theorem splitRaw_eq (h : IsSplit line key separator value) : splitRaw line = (key, value) := by
  rw [← h.joined, List.append_assoc, splitRaw, spanKey_of_unseparated h.unseparated h.endsKey]
  show (key, dropSeparator (separator ++ value)) = (key, value)
  rw [dropSeparator_append h.separates h.begun h.unmarked]

end IsSplit

/-- Every line is split by the two cuts that the reader makes. -/
theorem exists_isSplit (line : List Char) :
    ∃ separator, IsSplit line (splitRaw line).1 separator (splitRaw line).2 := by
  obtain ⟨separator, hseparates, hrest, hbegun, hunmarked⟩ := exists_separator (spanKey line).2
  have hline := spanKey_append line
  refine ⟨separator, ?_, unseparated_spanKey line, ?_, ?_, hseparates, hbegun, hunmarked⟩
  · show (spanKey line).1 ++ separator ++ dropSeparator (spanKey line).2 = line
    rw [List.append_assoc, hrest, hline]
  -- what ends the key is blank or a mark, so with no separator it would begin the value
  · intro hnil
    subst hnil
    cases hbehind : (spanKey line).2 with
    | nil =>
        rw [hbehind, List.append_nil] at hline
        exact hline
    | cons c more =>
        rw [List.nil_append, hbehind] at hrest
        rw [hbehind] at hbegun hunmarked
        have hplain := hunmarked List.not_mem_nil List.not_mem_nil c more hrest
        have hseparator := (endsKey_spanKey line c more hbehind).2
        simp only [isSeparator, hbegun c more hrest, Bool.or_false, Bool.or_eq_true,
          beq_iff_eq] at hseparator
        simp [hseparator] at hplain
  · intro hne
    cases hbehind : (spanKey line).2 with
    | nil =>
        rw [hbehind] at hrest
        exact absurd (List.append_eq_nil_iff.mp hrest).1 hne
    | cons c more => exact (endsKey_spanKey line c more hbehind).1

/-! ## 4. Escapes -/

theorem unseparated_of_guarded {s : List Char} (h : Guarded s) : Unseparated s := by
  induction h with
  | nil => exact unseparated_nil
  | @plain c s hblank hmark _ ih =>
      simp only [List.mem_cons, List.not_mem_nil, or_false, not_or] at hmark
      exact (unseparated_cons hmark.1).mpr ⟨by simp [isSeparator, hblank, hmark], ih⟩
  | escaped _ _ ih => exact unseparated_escaped.mpr ih

theorem IsEscape.unseparated {escape : List Char} (h : IsEscape escape) : Unseparated escape := by
  cases h with
  | character c => exact unseparated_escaped.mpr unseparated_nil
  | units h => exact unseparated_of_guarded (guarded_of_spellsUnits h)

theorem IsEscape.ne_nil {escape : List Char} (h : IsEscape escape) : escape ≠ [] := by
  cases h with
  | character c => exact List.cons_ne_nil _ _
  | units h =>
      cases h with
      | cons hunit _ =>
          obtain ⟨w, x, y, z, rfl, -⟩ := hexUnit?_of_spellsUnit hunit
          exact List.cons_ne_nil _ _

/-- Text without an unescaped separator, from an unescaped place on, stands in the key or in the
value as a whole. -/
theorem IsSplit.uncut {line key separator value before middle after : List Char}
    (h : IsSplit line key separator value) (hline : line = before ++ middle ++ after)
    (hbefore : endsEscaped before = false) (hmiddle : Unseparated middle) (hne : middle ≠ []) :
    before ++ middle <+: key ∨ key ++ separator <+: before := by
  have hjoined : before ++ (middle ++ after) = key ++ (separator ++ value) := by
    rw [← List.append_assoc, ← List.append_assoc, ← hline, h.joined]
  rcases List.append_eq_append_iff.mp hjoined with ⟨front, rfl, hrest⟩ | ⟨front, rfl, hrest⟩
  -- the text begins in the key: where it goes beyond, it meets the separator
  · left
    rcases List.append_eq_append_iff.mp hrest with ⟨more, rfl, -⟩ | ⟨beyond, rfl, hbeyond⟩
    · rw [← List.append_assoc]
      exact List.prefix_append _ _
    · cases beyond with
      | nil => exact ⟨[], by simp⟩
      | cons c beyond =>
          obtain ⟨hescaped, hc⟩ := h.endsKey c _ hbeyond
          rw [endsEscaped_append hbefore] at hescaped
          rw [hmiddle front c beyond rfl hescaped] at hc
          cases hc
  -- it begins behind the key: in the separator it cannot, so it begins in the value
  · right
    rcases List.append_eq_append_iff.mp hrest with ⟨more, rfl, -⟩ | ⟨more, rfl, hmore⟩
    · rw [← List.append_assoc]
      exact List.prefix_append _ _
    · cases more with
      | nil => exact ⟨[], by simp⟩
      | cons c more =>
          obtain ⟨d, rest, rfl⟩ := List.exists_cons_of_ne_nil hne
          rw [List.cons_append, List.cons_append] at hmore
          obtain ⟨rfl, -⟩ := List.cons.inj hmore
          have hd := isSeparator_of_mem h.separates (List.mem_append_right front List.mem_cons_self)
          rw [hmiddle [] d rest rfl rfl] at hd
          cases hd

/-! ## 5. Unescaping across the cuts -/

theorem hexValue?_of_isSeparator {c : Char} (h : isSeparator c = true) : hexValue? c = none := by
  have hdigit : c = '=' ∨ c = ':' ∨ isBlank c = true := by
    simpa [isSeparator, or_assoc] using h
  rcases hdigit with rfl | rfl | h
  · decide
  · decide
  · simp only [isBlank, Bool.or_eq_true, Bool.and_eq_true, decide_eq_true_eq, beq_iff_eq] at h
    rw [hexValue?, if_neg (by omega), if_neg (by omega), if_neg (by omega)]

theorem isSeparator_notMem_of_spellsUnit {unit : Nat} {s : List Char} (h : SpellsUnit unit s)
    {c : Char} (hc : isSeparator c = true) : c ∉ s := by
  obtain ⟨w, x, y, z, rfl, hvalue⟩ := hexUnit?_of_spellsUnit h
  intro hmem
  simp only [List.mem_cons, List.not_mem_nil, or_false] at hmem
  have hdigit := hexValue?_of_isSeparator hc
  rcases hmem with rfl | rfl | rfl | rfl | rfl | rfl
  · cases hc
  · exact absurd hc (by decide)
  -- a separator is no digit
  all_goals simp [hexUnit?, hdigit] at hvalue

theorem prefix_of_notMem {c : Char} {w s t : List Char} (hc : c ∉ w) (h : w <+: s ++ c :: t) :
    w <+: s := by
  obtain ⟨rest, hrest⟩ := h
  rcases List.append_eq_append_iff.mp hrest with ⟨more, rfl, -⟩ | ⟨more, rfl, hmore⟩
  · exact List.prefix_append _ _
  · cases more with
    | nil => exact ⟨[], by simp⟩
    | cons d more =>
        obtain ⟨rfl, -⟩ := List.cons.inj hmore
        simp at hc

/-- A separator behind a text completes no unit in it. -/
theorem readUnit?_append_of_none {s : List Char} (h : readUnit? s = none) {c : Char}
    (hc : isSeparator c = true) (t : List Char) : readUnit? (s ++ c :: t) = none := by
  refine Option.eq_none_iff_forall_ne_some.mpr fun ⟨unit, rest⟩ hread => ?_
  obtain ⟨digits, hunit, heq⟩ := readUnit?_eq_some_iff.mp hread
  have hnot : c ∉ digits := by
    have hnot := isSeparator_notMem_of_spellsUnit hunit hc
    simp only [List.mem_cons, not_or] at hnot
    exact hnot.2.2
  obtain ⟨more, rfl⟩ := prefix_of_notMem hnot ⟨rest, heq.symm⟩
  rw [readUnit?_eq_some_iff.mpr ⟨digits, hunit, rfl⟩] at h
  cases h

/-- A separator does not complete a unit that was cut off. -/
theorem readLowSurrogate?_append_of_none {s : List Char} (h : readLowSurrogate? s = none) {c : Char}
    (hc : isSeparator c = true) (t : List Char) : readLowSurrogate? (s ++ c :: t) = none := by
  refine Option.eq_none_iff_forall_ne_some.mpr fun ⟨unit, rest⟩ hread => ?_
  obtain ⟨hlow, spelled, hunit, heq⟩ := readLowSurrogate?_eq_some_iff.mp hread
  obtain ⟨more, rfl⟩ :=
    prefix_of_notMem (isSeparator_notMem_of_spellsUnit hunit hc) ⟨rest, heq.symm⟩
  rw [readLowSurrogate?_eq_some_iff.mpr ⟨hlow, spelled, hunit, rfl⟩] at h
  cases h

theorem endsEscaped_of_spellsUnit {unit : Nat} {s : List Char} (h : SpellsUnit unit s)
    (t : List Char) : endsEscaped (s ++ t) = endsEscaped t := by
  apply endsEscaped_append
  rw [← isOpen_eq_endsEscaped, (guarded_of_spellsUnit h).isOpen_eq_false]

/-- The step over a unit that is decoded by itself. -/
theorem unescape_alone_append_separator {rest after : List Char} {unit : Nat}
    (hunit : readUnit? rest = some (unit, after))
    (hnone : isHighSurrogate unit = true → readLowSurrogate? after = none)
    (hs : endsEscaped ('\\' :: 'u' :: rest) = false) {c : Char} (hc : isSeparator c = true)
    {t : List Char} (ih : endsEscaped after = false →
      unescape (after ++ c :: t) = unescape after ++ c :: unescape t) :
    unescape ('\\' :: 'u' :: rest ++ c :: t) =
      unescape ('\\' :: 'u' :: rest) ++ c :: unescape t := by
  obtain ⟨digits, hspells, rfl⟩ := readUnit?_eq_some_iff.mp hunit
  let written : WrittenUnit := ⟨unit, '\\' :: 'u' :: digits, hspells⟩
  have hafter : endsEscaped after = false :=
    (endsEscaped_of_spellsUnit hspells after).symm.trans hs
  have hnone' (hhigh : isHighSurrogate unit = true) : readLowSurrogate? (after ++ c :: t) = none :=
    readLowSurrogate?_append_of_none (hnone hhigh) hc t
  show unescape (written.spelling ++ after ++ c :: t) =
    unescape (written.spelling ++ after) ++ c :: unescape t
  rw [List.append_assoc, unescape_alone written hnone', unescape_alone written hnone, ih hafter,
    List.append_assoc]

/-- Escapes that are over do not reach beyond a separator. -/
theorem unescape_append_separator {s : List Char} (hs : endsEscaped s = false) {c : Char}
    (hc : isSeparator c = true) (t : List Char) :
    unescape (s ++ c :: t) = unescape s ++ c :: unescape t := by
  induction s using unescape.induct with
  | case1 =>
      rw [unescape_nil]
      exact unescape_cons (ne_backslash_of_isSeparator hc) t
  | case2 => cases hs
  | case3 rest hunit ih =>
      have hunit' := readUnit?_append_of_none hunit hc t
      rw [List.cons_append, List.cons_append, unescape_malformed hunit', unescape_malformed hunit,
        ih hs]
      rfl
  | case4 rest unit after hunit hhigh low beyond hlow ih =>
      obtain ⟨digits, hspells, rfl⟩ := readUnit?_eq_some_iff.mp hunit
      obtain ⟨hislow, spelled, hspelled, rfl⟩ := readLowSurrogate?_eq_some_iff.mp hlow
      have hbeyond : endsEscaped beyond = false := by
        rw [← endsEscaped_of_spellsUnit hspelled, ← endsEscaped_of_spellsUnit hspells]
        exact hs
      -- the pair is read over the same twelve characters with more text behind them
      have hunit' : readUnit? (digits ++ (spelled ++ beyond) ++ c :: t) =
          some (unit, spelled ++ (beyond ++ c :: t)) :=
        readUnit?_eq_some_iff.mpr ⟨digits, hspells, by simp⟩
      have hlow' : readLowSurrogate? (spelled ++ (beyond ++ c :: t)) =
          some (low, beyond ++ c :: t) :=
        readLowSurrogate?_eq_some_iff.mpr ⟨hislow, spelled, hspelled, rfl⟩
      rw [List.cons_append, List.cons_append, unescape_pair hunit' hhigh hlow',
        unescape_pair hunit hhigh hlow, ih hbeyond]
      rfl
  | case5 rest unit after hunit hhigh hlow ih =>
      exact unescape_alone_append_separator hunit (fun _ => hlow) hs hc ih
  | case6 rest unit after hunit hhigh hlow ih =>
      exact unescape_alone_append_separator hunit (fun h => absurd h hhigh) hs hc ih
  | case7 rest unit after hunit hhigh hlow ih =>
      exact unescape_alone_append_separator hunit (fun h => absurd h hhigh) hs hc ih
  | case8 d rest hd ih =>
      rw [List.cons_append, List.cons_append, unescape_escaped hd, unescape_escaped hd, ih hs]
      rfl
  | case9 d rest hlast hunit hmore ih =>
      have hd := ne_backslash hlast hmore
      rw [endsEscaped_cons hd] at hs
      rw [List.cons_append, unescape_cons hd, unescape_cons hd, ih hs]
      rfl

/-- Unescaping the parts of a line comes to unescaping the line. -/
theorem IsSplit.unescape_eq {line key separator value : List Char}
    (h : IsSplit line key separator value) :
    unescape line = unescape key ++ separator ++ unescape value := by
  rw [← h.joined]
  cases hseparator : separator with
  | nil =>
      rw [h.value_eq_nil hseparator, unescape_nil, List.append_nil, List.append_nil,
        List.append_nil, List.append_nil]
  | cons c rest =>
      have hmem {d : Char} (hd : d ∈ c :: rest) : isSeparator d = true :=
        isSeparator_of_mem h.separates (hseparator ▸ hd)
      have hkey : endsEscaped key = false := h.unescaped (by simp [hseparator])
      have hrest : '\\' ∉ rest := fun hd =>
        ne_backslash_of_isSeparator (hmem (List.mem_cons_of_mem _ hd)) rfl
      rw [List.append_assoc, List.cons_append,
        unescape_append_separator hkey (hmem List.mem_cons_self), unescape_plain hrest]
      simp

/-- Every line falls into a key, a separator and a value in exactly one way, and it is read as that
key and that value.  No escape is cut. -/
theorem line_splits_once (line : List Char) :
    ∃ key separator value, IsSplit line key separator value ∧
      (∀ key' separator' value', IsSplit line key' separator' value' →
        key' = key ∧ separator' = separator ∧ value' = value) ∧
      splitEntry line = (String.ofList (unescape key), String.ofList (unescape value)) ∧
      (∀ before escape after, line = before ++ escape ++ after → endsEscaped before = false →
        IsEscape escape → before ++ escape <+: key ∨ key ++ separator <+: before) ∧
      unescape line = unescape key ++ separator ++ unescape value := by
  obtain ⟨separator, h⟩ := exists_isSplit line
  refine ⟨_, separator, _, h, ?_, rfl, ?_, h.unescape_eq⟩
  · intro key' separator' value' h'
    have hraw := h'.splitRaw_eq
    have hjoined := h.joined.trans h'.joined.symm
    rw [hraw] at hjoined ⊢
    rw [List.append_assoc, List.append_assoc, List.append_cancel_left_eq,
      List.append_cancel_right_eq] at hjoined
    exact ⟨rfl, hjoined.symm, rfl⟩
  · exact fun before escape after hline hbefore hescape =>
      h.uncut hline hbefore hescape.unseparated hescape.ne_nil

end ProcessLaunch.Properties
