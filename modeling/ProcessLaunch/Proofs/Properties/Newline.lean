import ProcessLaunch.Proofs.Properties.Split

/-!
# Newlines in entries

No line has a newline in it, so that a key or a value can only get one from an escape: from a
backslash before `n`, or from the unit of a newline.
-/

namespace ProcessLaunch.Properties

open Text

inductive NewlineEscape : List Char → Prop
  | letter : NewlineEscape ['\\', 'n']
  | unit {s : List Char} (h : SpellsUnit '\n'.toNat s) : NewlineEscape s

def EscapesNewline (s : List Char) : Prop :=
  ∃ before escape after, s = before ++ escape ++ after ∧ endsEscaped before = false ∧
    NewlineEscape escape

/-! ## 1. Lines -/

/-- No physical line has a newline in it. -/
theorem newline_notMem_physicalLines {text line : List Char} (h : line ∈ physicalLines text) :
    '\n' ∉ line := by
  fun_induction physicalLines text generalizing line with
  | case1 => cases h
  | case2 rest ih =>
      -- the line that ends here is empty so far, and the others are those of the rest
      rcases List.mem_cons.mp h with rfl | h
      · exact List.not_mem_nil
      · exact ih h
  | case3 rest ih =>
      rcases List.mem_cons.mp h with rfl | h
      · exact List.not_mem_nil
      · exact ih h
  | case4 c rest hnewline hreturn hrest ih =>
      rw [List.mem_singleton.mp h, List.mem_singleton]
      exact Ne.symm hnewline
  | case5 c rest hnewline hreturn first lines hrest ih =>
      rw [hrest] at ih
      rcases List.mem_cons.mp h with rfl | h
      · rw [List.mem_cons, not_or]
        exact ⟨Ne.symm hnewline, ih List.mem_cons_self⟩
      · exact ih (List.mem_cons_of_mem _ h)

/-- Neither has a logical one, since joining brings none in. -/
theorem newline_notMem_logicalLines {text line : List Char} (h : line ∈ logicalLines text) :
    '\n' ∉ line := by
  refine (forall_mem_logicalFrom (P := fun line => '\n' ∉ line) List.not_mem_nil
    (fun part hpart hmem => hpart (List.dropLast_subset _ hmem)) ?_ (by simp) line h).1
  intro line hline part hpart
  rw [List.mem_append, not_or]
  exact ⟨hpart, fun hmem =>
    newline_notMem_physicalLines hline ((List.dropWhile_sublist _).subset hmem)⟩

/-! ## 2. Escapes -/

theorem NewlineEscape.exists_cons {escape : List Char} (h : NewlineEscape escape) :
    ∃ c rest, escape = '\\' :: c :: rest := by
  cases h with
  | letter => exact ⟨_, _, rfl⟩
  | unit h =>
      obtain ⟨w, x, y, z, rfl, -⟩ := hexUnit?_of_spellsUnit h
      exact ⟨_, _, rfl⟩

theorem EscapesNewline.two_le_length {s : List Char} (h : EscapesNewline s) : 2 ≤ s.length := by
  obtain ⟨before, escape, after, rfl, -, hescape⟩ := h
  obtain ⟨c, rest, rfl⟩ := hescape.exists_cons
  simp only [List.length_append, List.length_cons]
  omega

/-- A character that is no backslash begins no escape. -/
theorem escapesNewline_cons {c : Char} (hc : c ≠ '\\') {s : List Char} :
    EscapesNewline (c :: s) ↔ EscapesNewline s := by
  constructor
  · rintro ⟨before, escape, after, heq, hbefore, hescape⟩
    rw [List.append_assoc] at heq
    rcases cut_cons hc heq hbefore with rfl | ⟨front, rfl, hs, hfront⟩
    · obtain ⟨d, rest, rfl⟩ := hescape.exists_cons
      exact absurd (List.cons.inj heq).1 hc
    · rw [← List.append_assoc] at hs
      exact ⟨front, escape, after, hs, hfront, hescape⟩
  · rintro ⟨before, escape, after, rfl, hbefore, hescape⟩
    rw [← endsEscaped_cons hc] at hbefore
    exact ⟨c :: before, escape, after, rfl, hbefore, hescape⟩

theorem escapesNewline_append {s : List Char} (hs : '\\' ∉ s) {t : List Char} :
    EscapesNewline (s ++ t) ↔ EscapesNewline t := by
  induction s with
  | nil => rfl
  | cons c s ih =>
      rw [List.mem_cons, not_or] at hs
      rw [List.cons_append, escapesNewline_cons (Ne.symm hs.1), ih hs.2]

/-- An escape stands for a newline by its letter or by its unit. -/
theorem newlineEscape_prefix_iff {c : Char} {s : List Char} :
    (∃ escape, NewlineEscape escape ∧ escape <+: '\\' :: c :: s) ↔
      c = 'n' ∨ c = 'u' ∧ ∃ after, readUnit? s = some ('\n'.toNat, after) := by
  constructor
  · rintro ⟨escape, hescape, after, heq⟩
    cases hescape with
    | letter =>
        obtain ⟨rfl, -⟩ : 'n' = c ∧ after = s := by simpa using heq
        exact .inl rfl
    | unit h =>
        obtain ⟨w, x, y, z, rfl, -⟩ := hexUnit?_of_spellsUnit h
        obtain ⟨rfl, hs⟩ : 'u' = c ∧ w :: x :: y :: z :: after = s := by simpa using heq
        exact .inr ⟨rfl, after, readUnit?_eq_some_iff.mpr ⟨_, h, hs.symm⟩⟩
  · rintro (rfl | ⟨rfl, after, hread⟩)
    · exact ⟨_, .letter, s, rfl⟩
    · obtain ⟨digits, hunit, rfl⟩ := readUnit?_eq_some_iff.mp hread
      exact ⟨_, .unit hunit, after, rfl⟩

/-- The first escape of a text stands for a newline, or one behind it does. -/
theorem escapesNewline_escaped {c : Char} {s : List Char} :
    EscapesNewline ('\\' :: c :: s) ↔
      (c = 'n' ∨ c = 'u' ∧ ∃ after, readUnit? s = some ('\n'.toNat, after)) ∨
        EscapesNewline s := by
  rw [← newlineEscape_prefix_iff]
  constructor
  · rintro ⟨before, escape, after, heq, hbefore, hescape⟩
    rw [List.append_assoc] at heq
    rcases cut_escaped heq hbefore with rfl | ⟨front, rfl, hs, hfront⟩
    · exact .inl ⟨escape, hescape, after, heq.symm⟩
    · rw [← List.append_assoc] at hs
      exact .inr ⟨front, escape, after, hs, hfront, hescape⟩
  · rintro (⟨escape, hescape, after, heq⟩ | ⟨before, escape, after, rfl, hbefore, hescape⟩)
    · exact ⟨[], escape, after, heq.symm, rfl, hescape⟩
    · exact ⟨'\\' :: c :: before, escape, after, rfl, hbefore, hescape⟩

theorem escapesNewline_spellsUnit {unit : Nat} {s : List Char} (h : SpellsUnit unit s)
    (t : List Char) : EscapesNewline (s ++ t) ↔ unit = '\n'.toNat ∨ EscapesNewline t := by
  obtain ⟨w, x, y, z, rfl, -⟩ := spellsUnit_iff.mp h
  have hread : readUnit? ([w, x, y, z] ++ t) = some (unit, t) :=
    readUnit?_eq_some_iff.mpr ⟨_, h, rfl⟩
  have hplain : '\\' ∉ [w, x, y, z] := by
    cases h with
    | digits hw hx hy hz =>
        have hw := (not_mark_of_showsDigit hw).2
        have hx := (not_mark_of_showsDigit hx).2
        have hy := (not_mark_of_showsDigit hy).2
        have hz := (not_mark_of_showsDigit hz).2
        simp_all [eq_comm]
  show EscapesNewline ('\\' :: 'u' :: ([w, x, y, z] ++ t)) ↔ _
  rw [escapesNewline_escaped, hread, escapesNewline_append hplain]
  simp

theorem newline_mem_alone (unit : WrittenUnit) :
    '\n' ∈ unit.alone.text ↔ unit.value = '\n'.toNat := by
  by_cases hsurrogate : isHighSurrogate unit.value = true ∨ isLowSurrogate unit.value = true
  -- a half of a pair keeps its six characters, and there is no newline among them
  · rw [WrittenUnit.alone_of_surrogate hsurrogate]
    refine iff_of_false (guarded_of_spellsUnit unit.spells).newline_notMem fun heq => ?_
    rw [heq] at hsurrogate
    exact absurd hsurrogate (by decide)
  · rw [not_or, Bool.not_eq_true, Bool.not_eq_true] at hsurrogate
    obtain ⟨hhigh, hlow⟩ := hsurrogate
    have hvalue := toNat_ofNat_of_unit (spellsUnit_lt unit.spells) hhigh hlow
    rw [WrittenUnit.alone_of_not_surrogate hhigh hlow, Decoded.text, List.mem_singleton]
    constructor
    · intro heq
      rw [← hvalue, ← heq]
    · intro heq
      rw [heq]
      rfl

theorem surrogatePair_ne_newline {high low : Nat} (hhigh : isHighSurrogate high = true)
    (hlow : isLowSurrogate low = true) : '\n' ≠ surrogatePair high low := by
  intro heq
  have hunits := utf16Units_surrogatePair hhigh hlow
  rw [← heq] at hunits
  cases hunits

theorem escaped_eq_newline_iff {c : Char} (hc : c ≠ '\n') : '\n' = escaped c ↔ c = 'n' := by
  unfold escaped
  split <;> simp_all [eq_comm]

theorem mem_of_readUnit? {s after : List Char} {unit : Nat} {c : Char}
    (hread : readUnit? s = some (unit, after)) (hc : c ∈ after) : c ∈ '\\' :: 'u' :: s := by
  obtain ⟨digits, -, rfl⟩ := readUnit?_eq_some_iff.mp hread
  simp [hc]

/-- The step over a unit that is decoded by itself. -/
theorem newline_mem_unescape_unit {rest after : List Char} {unit : Nat}
    (hread : readUnit? rest = some (unit, after))
    (hnone : isHighSurrogate unit = true → readLowSurrogate? after = none)
    (ih : '\n' ∈ unescape after ↔ EscapesNewline after) :
    '\n' ∈ unescape ('\\' :: 'u' :: rest) ↔ EscapesNewline ('\\' :: 'u' :: rest) := by
  obtain ⟨digits, hspells, rfl⟩ := readUnit?_eq_some_iff.mp hread
  let written : WrittenUnit := ⟨unit, '\\' :: 'u' :: digits, hspells⟩
  show '\n' ∈ unescape (written.spelling ++ after) ↔ EscapesNewline (written.spelling ++ after)
  rw [unescape_alone written hnone, List.mem_append, newline_mem_alone, ih,
    escapesNewline_spellsUnit hspells]

/-- A text without newlines is read as one with a newline exactly if it escapes one. -/
theorem newline_mem_unescape_iff {s : List Char} (h : '\n' ∉ s) :
    '\n' ∈ unescape s ↔ EscapesNewline s := by
  induction s using unescape.induct with
  | case1 =>
      rw [unescape_nil]
      exact iff_of_false List.not_mem_nil fun h => absurd h.two_le_length (by decide)
  | case2 =>
      rw [unescape]
      exact iff_of_false List.not_mem_nil fun h => absurd h.two_le_length (by decide)
  | case3 rest hunit ih =>
      simp only [List.mem_cons, not_or] at h
      have hrest : '\n' ∈ unescape rest ↔ EscapesNewline rest := ih h.2.2
      rw [unescape_malformed hunit, escapesNewline_escaped, hunit, ← hrest]
      simp
  | case4 rest unit after hunit hhigh low beyond hlow ih =>
      obtain ⟨digits, hspells, rfl⟩ := readUnit?_eq_some_iff.mp hunit
      obtain ⟨hislow, spelled, hspelled, rfl⟩ := readLowSurrogate?_eq_some_iff.mp hlow
      simp only [List.mem_cons, List.mem_append, not_or] at h
      have hbeyond : '\n' ∈ unescape beyond ↔ EscapesNewline beyond := ih h.2.2.2.2
      -- neither half of the pair is the unit of a newline
      have hhigh' : unit ≠ '\n'.toNat := by
        rintro rfl
        cases hhigh
      have hlow' : low ≠ '\n'.toNat := by
        rintro rfl
        cases hislow
      have hescapes : EscapesNewline (('\\' :: 'u' :: digits) ++ (spelled ++ beyond)) ↔
          EscapesNewline beyond := by
        rw [escapesNewline_spellsUnit hspells, escapesNewline_spellsUnit hspelled,
          or_iff_right hhigh', or_iff_right hlow']
      rw [unescape_pair hunit hhigh hlow, List.mem_cons,
        or_iff_right (surrogatePair_ne_newline hhigh hislow), hbeyond, ← hescapes]
      rfl
  | case5 rest unit after hunit hhigh hnone ih =>
      refine newline_mem_unescape_unit hunit (fun _ => hnone) (ih fun hmem => h ?_)
      exact mem_of_readUnit? hunit hmem
  | case6 rest unit after hunit hhigh hlow ih =>
      refine newline_mem_unescape_unit hunit (fun h => absurd h hhigh) (ih fun hmem => h ?_)
      exact mem_of_readUnit? hunit hmem
  | case7 rest unit after hunit hhigh hlow ih =>
      refine newline_mem_unescape_unit hunit (fun h => absurd h hhigh) (ih fun hmem => h ?_)
      exact mem_of_readUnit? hunit hmem
  | case8 c rest hc ih =>
      simp only [List.mem_cons, not_or] at h
      have hrest : '\n' ∈ unescape rest ↔ EscapesNewline rest := ih h.2.2
      have hc' : c ≠ 'u' := hc
      rw [unescape_escaped hc, List.mem_cons, escapesNewline_escaped, hrest,
        escaped_eq_newline_iff (Ne.symm h.2.1)]
      simp [hc']
  | case9 c rest hlast hunit hmore ih =>
      have hc := ne_backslash hlast hmore
      rw [List.mem_cons, not_or] at h
      have hrest : '\n' ∈ unescape rest ↔ EscapesNewline rest := ih h.2
      rw [unescape_cons hc, List.mem_cons, or_iff_right h.1, escapesNewline_cons hc, hrest]

/-! ## 3. Entries -/

/-- The key or the value of a line has a newline in it exactly if the line escapes one. -/
theorem newline_mem_splitEntry_iff {line : List Char} (h : '\n' ∉ line) :
    ('\n' ∈ (splitEntry line).1.toList ∨ '\n' ∈ (splitEntry line).2.toList) ↔
      EscapesNewline line := by
  obtain ⟨separator, hsplit⟩ := exists_isSplit line
  have hseparator : '\n' ∉ separator := by
    intro hmem
    rw [← hsplit.joined] at h
    simp [hmem] at h
  rw [← newline_mem_unescape_iff h, hsplit.unescape_eq, List.mem_append, List.mem_append,
    or_iff_left hseparator, splitEntry, String.toList_ofList, String.toList_ofList]

end ProcessLaunch.Properties
