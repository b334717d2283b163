import ProcessLaunch.Proofs.Properties.Spelling

/-!
# Runs of units

Escaped UTF-16 units next to each other are one UTF-16 text, in which two halves of a pair make a
character and a half without the other stays as it was written.  Unescaping looks at one unit behind
a high surrogate, and comes to what decoding the whole run gives.
-/

namespace ProcessLaunch.Properties

open Text

structure WrittenUnit where
  value : Nat
  spelling : List Char
  spells : SpellsUnit value spelling

/-- What units decode to: a character, or half of a pair without the other half. -/
inductive Decoded where
  | char (c : Char)
  | unpaired (unit : WrittenUnit)

def Decoded.text : Decoded → List Char
  | char c => [c]
  | unpaired unit => unit.spelling

/-- How a run of units decodes.  The units of a character stand for it, and a high surrogate is
unpaired if no low one comes right behind it. -/
inductive Decodes : List WrittenUnit → List Decoded → Prop
  | nil : Decodes [] []
  | char {c : Char} {units run : List WrittenUnit} {items : List Decoded}
      (hunits : units.map WrittenUnit.value = utf16Units c) (hrest : Decodes run items) :
      Decodes (units ++ run) (.char c :: items)
  | high {unit : WrittenUnit} {run : List WrittenUnit} {items : List Decoded}
      (hhigh : isHighSurrogate unit.value = true)
      (hnext : ∀ next ∈ run.head?, isLowSurrogate next.value = false)
      (hrest : Decodes run items) : Decodes (unit :: run) (.unpaired unit :: items)
  | low {unit : WrittenUnit} {run : List WrittenUnit} {items : List Decoded}
      (hlow : isLowSurrogate unit.value = true) (hrest : Decodes run items) :
      Decodes (unit :: run) (.unpaired unit :: items)

def WrittenUnit.alone (unit : WrittenUnit) : Decoded :=
  if isHighSurrogate unit.value || isLowSurrogate unit.value then .unpaired unit
  else .char (Char.ofNat unit.value)

def decode : List WrittenUnit → List Decoded
  | [] => []
  | [unit] => [unit.alone]
  | unit :: next :: run =>
      if isHighSurrogate unit.value && isLowSurrogate next.value then
        .char (surrogatePair unit.value next.value) :: decode run
      else unit.alone :: decode (next :: run)

/-- Runs of escaped units, with text without a backslash in front of them and behind each.  Two runs
have some text between them, so that each is as long as can be. -/
structure EscapedText where
  front : List Char
  parts : List (List WrittenUnit × List Char)
  plain_front : '\\' ∉ front
  plain : ∀ part ∈ parts, '\\' ∉ part.2
  apart : ∀ part ∈ parts.dropLast, part.2 ≠ []

namespace EscapedText

def written (text : EscapedText) : List Char :=
  text.front ++ text.parts.flatMap fun (run, behind) => run.flatMap (·.spelling) ++ behind

def decoded (text : EscapedText) : List Char :=
  text.front ++ text.parts.flatMap fun (run, behind) => (decode run).flatMap (·.text) ++ behind

end EscapedText

/-! ## 1. Every run has one decoding -/

theorem WrittenUnit.alone_of_surrogate {unit : WrittenUnit}
    (h : isHighSurrogate unit.value = true ∨ isLowSurrogate unit.value = true) :
    unit.alone = .unpaired unit :=
  if_pos (by rwa [Bool.or_eq_true])

theorem WrittenUnit.alone_of_not_surrogate {unit : WrittenUnit}
    (hhigh : isHighSurrogate unit.value = false) (hlow : isLowSurrogate unit.value = false) :
    unit.alone = .char (Char.ofNat unit.value) :=
  if_neg (by simp [hhigh, hlow])

/-- A unit that makes no pair with the next one is decoded by itself. -/
theorem decodes_alone {unit : WrittenUnit} {run : List WrittenUnit} {items : List Decoded}
    (hnext : isHighSurrogate unit.value = true →
      ∀ next ∈ run.head?, isLowSurrogate next.value = false)
    (hrest : Decodes run items) : Decodes (unit :: run) (unit.alone :: items) := by
  by_cases hhigh : isHighSurrogate unit.value = true
  · rw [WrittenUnit.alone_of_surrogate (.inl hhigh)]
    exact .high hhigh (hnext hhigh) hrest
  by_cases hlow : isLowSurrogate unit.value = true
  · rw [WrittenUnit.alone_of_surrogate (.inr hlow)]
    exact .low hlow hrest
  · rw [Bool.not_eq_true] at hhigh hlow
    have hlt := spellsUnit_lt unit.spells
    have hunits : [unit].map WrittenUnit.value = utf16Units (Char.ofNat unit.value) := by
      rw [utf16Units, toNat_ofNat_of_unit hlt hhigh hlow, if_pos (by omega)]
      rfl
    rw [WrittenUnit.alone_of_not_surrogate hhigh hlow]
    exact .char hunits hrest

theorem decodes_decode (run : List WrittenUnit) : Decodes run (decode run) := by
  fun_induction decode run with
  | case1 => exact .nil
  | case2 unit => exact decodes_alone (fun _ _ h => by cases h) .nil
  | case3 unit next run hpair ih =>
      rw [Bool.and_eq_true] at hpair
      have hunits : [unit, next].map WrittenUnit.value =
          utf16Units (surrogatePair unit.value next.value) :=
        (utf16Units_surrogatePair hpair.1 hpair.2).symm
      exact .char hunits ih
  | case4 unit next run hpair ih =>
      refine decodes_alone (fun hhigh other hother => ?_) ih
      obtain rfl : next = other := by simpa using hother
      simpa [hhigh] using hpair

theorem decode_cons {unit : WrittenUnit} {run : List WrittenUnit}
    (hnext : isHighSurrogate unit.value = true →
      ∀ next ∈ run.head?, isLowSurrogate next.value = false) :
    decode (unit :: run) = unit.alone :: decode run := by
  cases run with
  | nil => rfl
  | cons next run =>
      rw [decode, if_neg]
      rw [Bool.and_eq_true]
      rintro ⟨hhigh, hlow⟩
      have hnotlow := hnext hhigh next rfl
      rw [hlow] at hnotlow
      cases hnotlow

/-- The rules leave one decoding of a run. -/
theorem Decodes.eq_decode {run : List WrittenUnit} {items : List Decoded} (h : Decodes run items) :
    items = decode run := by
  induction h with
  | nil => rfl
  | @char c units run items hunits _ ih =>
      unfold utf16Units at hunits
      split at hunits
      next =>
        obtain ⟨unit, rfl, hvalue⟩ := List.map_eq_singleton_iff.mp hunits
        obtain ⟨hhigh, hlow⟩ := isSurrogate_toNat c
        rw [← hvalue] at hhigh hlow
        rw [List.singleton_append, decode_cons (by simp [hhigh]), ← ih,
          WrittenUnit.alone_of_not_surrogate hhigh hlow, hvalue, Char.ofNat_toNat]
      -- the two halves of a character outside the basic plane are what `decode` pairs
      next hlarge =>
        obtain ⟨unit, rest, rfl, hunit, hrest⟩ := List.map_eq_cons_iff.mp hunits
        obtain ⟨next, rfl, hnext⟩ := List.map_eq_singleton_iff.mp hrest
        obtain ⟨hhigh, hlow, hpair⟩ := surrogatePair_halves hlarge
        rw [List.cons_append, List.singleton_append, decode, hunit, hnext, hhigh, hlow, hpair, ← ih]
        rfl
  | high hhigh hnext _ ih =>
      rw [decode_cons fun _ => hnext, ← ih, WrittenUnit.alone_of_surrogate (.inl hhigh)]
  | @low unit run items hlow _ ih =>
      -- a low surrogate is no high one, so it does not matter what comes behind it
      have hnothigh : isHighSurrogate unit.value ≠ true := by
        intro hhigh
        rw [isLowSurrogate_of_isHighSurrogate hhigh] at hlow
        cases hlow
      rw [decode_cons fun hhigh => absurd hhigh hnothigh, ← ih,
        WrittenUnit.alone_of_surrogate (.inr hlow)]

/-! ## 2. Reading a run -/

theorem WrittenUnit.exists_digits (unit : WrittenUnit) : ∃ digits : List Char,
    digits.length = 4 ∧ unit.spelling = '\\' :: 'u' :: digits ∧
      ∀ rest, readUnit? (digits ++ rest) = some (unit.value, rest) := by
  have hunit := unit.spells
  obtain ⟨w, x, y, z, hspelling, -⟩ := hexUnit?_of_spellsUnit hunit
  rw [hspelling] at hunit
  exact ⟨[w, x, y, z], rfl, hspelling, fun rest => readUnit?_eq_some_iff.mpr ⟨_, hunit, rfl⟩⟩

/-- The unit behind a high surrogate is read exactly if it is a low one. -/
theorem readLowSurrogate?_spelling (unit : WrittenUnit) (rest : List Char) :
    readLowSurrogate? (unit.spelling ++ rest) =
      if isLowSurrogate unit.value then some (unit.value, rest) else none := by
  obtain ⟨digits, -, hspelling, hread⟩ := unit.exists_digits
  rw [hspelling, List.cons_append, List.cons_append, readLowSurrogate?, hread,
    Option.filter_some]

/-- A unit in front of a text that does not go on with the other half of its pair. -/
theorem unescape_alone (unit : WrittenUnit) {rest : List Char}
    (h : isHighSurrogate unit.value = true → readLowSurrogate? rest = none) :
    unescape (unit.spelling ++ rest) = unit.alone.text ++ unescape rest := by
  obtain ⟨digits, hlength, hspelling, hread⟩ := unit.exists_digits
  have htake : (digits ++ rest).take 4 = digits := by rw [← hlength, List.take_left]
  -- an unpaired unit leaves its own six characters behind
  have hunpaired : unit.alone = .unpaired unit →
      '\\' :: 'u' :: ((digits ++ rest).take 4 ++ unescape rest) =
        unit.alone.text ++ unescape rest := by
    intro halone
    rw [halone, htake, Decoded.text, hspelling]
    rfl
  rw [hspelling, List.cons_append, List.cons_append]
  by_cases hhigh : isHighSurrogate unit.value = true
  · rw [unescape_unpaired (hread rest) (.inl ⟨hhigh, h hhigh⟩)]
    exact hunpaired (WrittenUnit.alone_of_surrogate (.inl hhigh))
  rw [Bool.not_eq_true] at hhigh
  by_cases hlow : isLowSurrogate unit.value = true
  · rw [unescape_unpaired (hread rest) (.inr ⟨hhigh, hlow⟩)]
    exact hunpaired (WrittenUnit.alone_of_surrogate (.inr hlow))
  · rw [Bool.not_eq_true] at hlow
    rw [unescape_unit (hread rest) hhigh hlow, WrittenUnit.alone_of_not_surrogate hhigh hlow]
    rfl

/-- A run in front of a text that does not go on with a low surrogate. -/
theorem unescape_run (run : List WrittenUnit) {rest : List Char}
    (h : readLowSurrogate? rest = none) :
    unescape (run.flatMap (·.spelling) ++ rest) =
      (decode run).flatMap (·.text) ++ unescape rest := by
  fun_induction decode run with
  | case1 => rfl
  | case2 unit =>
      rw [List.flatMap_singleton, List.flatMap_singleton]
      exact unescape_alone unit fun _ => h
  -- the pair is read in one round
  | case3 unit next run hpair ih =>
      rw [Bool.and_eq_true] at hpair
      obtain ⟨digits, -, hspelling, hread⟩ := unit.exists_digits
      have hlow := readLowSurrogate?_spelling next (run.flatMap (·.spelling) ++ rest)
      rw [if_pos hpair.2] at hlow
      rw [List.flatMap_cons, List.flatMap_cons, hspelling, List.append_assoc, List.append_assoc,
        List.cons_append, List.cons_append, unescape_pair (hread _) hpair.1 hlow, ih,
        List.flatMap_cons]
      rfl
  | case4 unit next run hpair ih =>
      rw [List.flatMap_cons, List.append_assoc, unescape_alone unit, ih, List.flatMap_cons,
        List.append_assoc]
      intro hhigh
      have hnotlow : isLowSurrogate next.value = false := by simpa [hhigh] using hpair
      rw [List.flatMap_cons, List.append_assoc, readLowSurrogate?_spelling, hnotlow]
      rfl

/-! ## 3. Reading runs and text -/

theorem readLowSurrogate?_plain {text : List Char} (h : '\\' ∉ text) (hne : text ≠ [])
    (rest : List Char) : readLowSurrogate? (text ++ rest) = none := by
  obtain ⟨c, text, rfl⟩ := List.exists_cons_of_ne_nil hne
  rw [List.mem_cons, not_or] at h
  rw [List.cons_append, readLowSurrogate?]
  rintro _ heq
  exact h.1 (List.cons.inj heq).1.symm

/-- Runs with text between them are unescaped each as a whole. -/
theorem unescape_parts {parts : List (List WrittenUnit × List Char)}
    (hplain : ∀ part ∈ parts, '\\' ∉ part.2) (hapart : ∀ part ∈ parts.dropLast, part.2 ≠ []) :
    unescape (parts.flatMap fun (run, behind) => run.flatMap (·.spelling) ++ behind) =
      parts.flatMap fun (run, behind) => (decode run).flatMap (·.text) ++ behind := by
  induction parts with
  | nil => exact unescape_nil
  | cons part parts ih =>
      obtain ⟨run, behind⟩ := part
      have hbehind : '\\' ∉ behind := hplain (run, behind) List.mem_cons_self
      have hrest := ih (fun part hpart => hplain part (List.mem_cons_of_mem _ hpart))
        fun part hpart => hapart part (by
          rw [List.dropLast_cons_of_ne_nil (List.ne_nil_of_mem (List.dropLast_subset parts hpart))]
          exact List.mem_cons_of_mem _ hpart)
      -- behind the run comes its text, or the end of everything
      have hend : readLowSurrogate? (behind ++ parts.flatMap fun (run, behind) =>
          run.flatMap (·.spelling) ++ behind) = none := by
        by_cases hempty : behind = []
        · subst hempty
          cases parts with
          | nil => rfl
          | cons next parts => exact absurd rfl (hapart (run, []) (by simp))
        · exact readLowSurrogate?_plain hbehind hempty _
      rw [List.flatMap_cons, List.append_assoc, unescape_run run hend, unescape_plain hbehind,
        hrest, List.flatMap_cons, List.append_assoc]

/-- Each run of units has one decoding, and a text is unescaped to what it comes to with each of its
runs decoded as a whole. -/
theorem unescape_decodes_runs :
    (∀ run items, Decodes run items ↔ items = decode run) ∧
      ∀ text : EscapedText, unescape text.written = text.decoded := by
  refine ⟨fun run items => ⟨Decodes.eq_decode, fun h => h ▸ decodes_decode run⟩, fun text => ?_⟩
  rw [EscapedText.written, unescape_plain text.plain_front,
    unescape_parts text.plain text.apart]
  rfl

/-- Two high surrogates and a low one, then a low one behind text that looks like digits. -/
example : unescape "\\uD83D\\ud83d\\uDE00DE00\\uDe00".toList = "\\uD83D😀DE00\\uDe00".toList := by
  decide +kernel

end ProcessLaunch.Properties
