import ProcessLaunch.Json.String
import ProcessLaunch.Proofs.Json.Reader
import ProcessLaunch.Proofs.Properties.Spelling

/-!
# Spelled strings

The ways in which a string may be written: each character as it is, as a letter behind a backslash,
or in UTF-16 units.  A string is read exactly if it is spelled in one of these ways, and it is read
as the text that it spells.  In a string that nobody wants a unit may be half of a pair.
-/

namespace ProcessLaunch.Json

open Reader Properties

/-! ## 1. Ways of writing -/

def shortEscapes : List (Char × Char) :=
  [('"', '"'), ('\\', '\\'), ('/', '/'), ('b', '\x08'), ('f', '\x0c'), ('n', '\n'), ('r', '\r'),
    ('t', '\t')]

inductive SpellsChar (writesUnits : Char → List Char → Prop) : Char → List Char → Prop
  | plain {c : Char} (hquote : c ≠ '"') (hbackslash : c ≠ '\\') (hcontrol : 0x20 ≤ c.toNat) :
      SpellsChar writesUnits c [c]
  | short {letter c : Char} (h : (letter, c) ∈ shortEscapes) :
      SpellsChar writesUnits c ['\\', letter]
  | units {c : Char} {t : List Char} (h : writesUnits c t) :
      SpellsChar writesUnits c ('\\' :: 'u' :: t)

inductive SpellsText (writesUnits : Char → List Char → Prop) : List Char → List Char → Prop
  | nil : SpellsText writesUnits [] []
  | cons {c : Char} {cs s t : List Char} (h : SpellsChar writesUnits c s)
      (ht : SpellsText writesUnits cs t) : SpellsText writesUnits (c :: cs) (s ++ t)

/-- The units of a character, two of them only as a pair. -/
def PairedUnits (c : Char) (t : List Char) : Prop := SpellsUnits (utf16Units c) ('\\' :: 'u' :: t)

/-- Any one unit, whatever it is worth. -/
def LooseUnit (c : Char) (t : List Char) : Prop :=
  c = Text.replacement ∧ ∃ unit, SpellsUnit unit ('\\' :: 'u' :: t)

def WritesString (text : String) (s : List Char) : Prop :=
  ∃ t, SpellsText PairedUnits text.toList t ∧ s = '"' :: t ++ ['"']

/-- Something in quotes that is spelled like a string, whether it is a text or not. -/
def Quotation (s : List Char) : Prop :=
  ∃ cs t, SpellsText LooseUnit cs t ∧ s = '"' :: t ++ ['"']

theorem shortEscape?_eq_some_iff {letter c : Char} :
    shortEscape? letter = some c ↔ (letter, c) ∈ shortEscapes := by
  unfold shortEscape?
  split <;> simp_all [shortEscapes, eq_comm]

/-! ## 2. Units -/

theorem takes_unit : unit.Takes fun n t => SpellsUnit n ('\\' :: 'u' :: t) := by
  intro s n rest
  constructor
  · intro h
    simp only [unit] at h
    split at h
    next w x y z behind =>
      split at h
      next m hm =>
        cases h
        exact ⟨[w, x, y, z], spellsUnit_iff.mpr ⟨w, x, y, z, rfl, hm⟩, rfl⟩
      next => cases h
    next => cases h
  -- the reader counts bytes, and each digit is one
  · rintro ⟨t, ht, rfl⟩
    obtain ⟨w, x, y, z, hs, h⟩ := spellsUnit_iff.mp ht
    obtain rfl : t = [w, x, y, z] := by simpa using hs
    simp [unit, h]

/-! ## 3. Characters in units -/

theorem run_unicode_of_unit {n : Nat} {t : List Char} (h : SpellsUnit n ('\\' :: 'u' :: t))
    (hhigh : Text.isHighSurrogate n = false) (hlow : Text.isLowSurrogate n = false)
    (rest : List Char) : unicode.run (t ++ rest) = .ok (Char.ofNat n, rest) := by
  have hunit := takes_unit.run_append h rest
  simp only [unicode, run_bind, hunit, hlow, hhigh, Bool.false_eq_true, if_false, run_pure]

theorem run_unicode_of_pair {high low : Nat} {t t' : List Char}
    (h : SpellsUnit high ('\\' :: 'u' :: t)) (h' : SpellsUnit low ('\\' :: 'u' :: t'))
    (hhigh : Text.isHighSurrogate high = true) (hlow : Text.isLowSurrogate low = true)
    (rest : List Char) :
    unicode.run (t ++ '\\' :: 'u' :: (t' ++ rest)) = .ok (Text.surrogatePair high low, rest) := by
  have hunit := takes_unit.run_append h ('\\' :: 'u' :: (t' ++ rest))
  have hunit' := takes_unit.run_append h' rest
  have hnotlow := isLowSurrogate_of_isHighSurrogate hhigh
  have hexpect (c : Char) (s : List Char) : (expect c).run (c :: s) = .ok ((), s) :=
    run_expect_eq_ok.mpr rfl
  simp only [unicode, run_bind, hunit, hunit', hexpect, hnotlow, hhigh, hlow, Bool.false_eq_true,
    if_false, if_true, run_pure]

/-- A character is written in one unit, or in two if these are halves of a pair. -/
theorem pairedUnits_iff {c : Char} {t : List Char} :
    PairedUnits c t ↔
      (∃ n, SpellsUnit n ('\\' :: 'u' :: t) ∧ Text.isHighSurrogate n = false ∧
        Text.isLowSurrogate n = false ∧ Char.ofNat n = c) ∨
      ∃ high low t₁ t₂, t = t₁ ++ '\\' :: 'u' :: t₂ ∧ SpellsUnit high ('\\' :: 'u' :: t₁) ∧
        SpellsUnit low ('\\' :: 'u' :: t₂) ∧ Text.isHighSurrogate high = true ∧
        Text.isLowSurrogate low = true ∧ Text.surrogatePair high low = c := by
  constructor
  · intro h
    rw [PairedUnits, utf16Units] at h
    split at h
    next hsmall =>
      obtain ⟨w, x, y, z, hs, hunit⟩ := eq_of_spellsUnits_one h
      obtain ⟨hhigh, hlow⟩ := isSurrogate_toNat c
      exact .inl ⟨_, spellsUnit_iff.mpr ⟨w, x, y, z, hs, hunit⟩, hhigh, hlow, Char.ofNat_toNat c⟩
    next hlarge =>
      obtain ⟨w, x, y, z, w', x', y', z', hs, hhigh, hlow⟩ := eq_of_spellsUnits_two h
      obtain ⟨hishigh, hislow, hpair⟩ := surrogatePair_halves hlarge
      exact .inr ⟨_, _, [w, x, y, z], [w', x', y', z'], by simpa using hs,
        spellsUnit_iff.mpr ⟨w, x, y, z, rfl, hhigh⟩, spellsUnit_iff.mpr ⟨w', x', y', z', rfl, hlow⟩,
        hishigh, hislow, hpair⟩
  · rintro (⟨n, hn, hhigh, hlow, rfl⟩ | ⟨high, low, t₁, t₂, rfl, h₁, h₂, hhigh, hlow, rfl⟩)
    · have hlt := spellsUnit_lt hn
      rw [PairedUnits, utf16Units, toNat_ofNat_of_unit hlt hhigh hlow, if_pos (by omega)]
      simpa using SpellsUnits.cons hn .nil
    · rw [PairedUnits, utf16Units_surrogatePair hhigh hlow]
      simpa using SpellsUnits.cons h₁ (.cons h₂ .nil)

/-- The units of a character are read as that character, and halves of pairs only as pairs. -/
theorem takes_unicode : unicode.Takes PairedUnits := by
  intro s c rest
  constructor
  · intro h
    rw [unicode, run_bind_eq_ok] at h
    obtain ⟨high, behind, hunit, h⟩ := h
    obtain ⟨t, ht, rfl⟩ := takes_unit.mp hunit
    split at h
    next => cases h
    next hnotlow =>
      split at h
      next hhigh =>
        simp only [run_bind_eq_ok, run_expect_eq_ok] at h
        obtain ⟨-, _, rfl, -, _, rfl, low, _, hunit, h⟩ := h
        obtain ⟨t', ht', rfl⟩ := takes_unit.mp hunit
        split at h
        next hlow =>
          obtain ⟨hc, rfl⟩ := run_pure_eq_ok.mp h
          -- the first unit is half of a pair, so a second one must follow
          refine ⟨t ++ '\\' :: 'u' :: t', pairedUnits_iff.mpr (.inr ?_), by simp⟩
          exact ⟨high, low, t, t', rfl, ht, ht', hhigh, hlow, hc⟩
        next => cases h
      next hnothigh =>
        obtain ⟨hc, rfl⟩ := run_pure_eq_ok.mp h
        refine ⟨t, pairedUnits_iff.mpr (.inl ?_), rfl⟩
        exact ⟨high, ht, by simpa using hnothigh, by simpa using hnotlow, hc⟩
  · rintro ⟨t, ht, rfl⟩
    obtain ⟨n, hn, hhigh, hlow, rfl⟩ | ⟨high, low, t₁, t₂, rfl, h₁, h₂, hhigh, hlow, rfl⟩ :=
      pairedUnits_iff.mp ht
    · exact run_unicode_of_unit hn hhigh hlow rest
    · rw [List.append_assoc, List.cons_append, List.cons_append]
      exact run_unicode_of_pair h₁ h₂ hhigh hlow rest

/-! ## 4. Strings -/

section

variable {reader : Reader Char} {writesUnits : Char → List Char → Prop}

/-- An escape is taken behind its backslash, in each of its ways. -/
theorem takes_escape (hunits : reader.Takes writesUnits) :
    (escape reader).Takes fun c t => SpellsChar writesUnits c ('\\' :: t) := by
  intro s c rest
  simp only [escape, run_bind_eq_ok, run_next_eq_ok]
  constructor
  · rintro ⟨letter, behind, rfl, h⟩
    split at h
    next hletter =>
      obtain ⟨t, ht, rfl⟩ := hunits.mp h
      exact ⟨'u' :: t, .units ht, by rw [hletter, List.cons_append]⟩
    next =>
      split at h
      next d hd =>
        obtain ⟨rfl, rfl⟩ := run_pure_eq_ok.mp h
        exact ⟨[letter], .short (shortEscape?_eq_some_iff.mp hd), rfl⟩
      next => cases h
  · rintro ⟨t, ht, rfl⟩
    -- a letter other than `u` stands for a character, and `u` begins units
    cases ht with
    | plain _ hbackslash => exact absurd rfl hbackslash
    | @short letter _ h =>
        have hletter : letter ≠ 'u' := by
          rintro rfl
          simp [shortEscapes] at h
        refine ⟨letter, rest, rfl, ?_⟩
        rw [if_neg hletter, shortEscape?_eq_some_iff.mpr h, run_pure]
    | @units _ t h => exact ⟨'u', t ++ rest, rfl, by rw [if_pos rfl, hunits.run_append h]⟩

def SpellsNext (writesUnits : Char → List Char → Prop) : Option Char → List Char → Prop
  | none, t => t = ['"']
  | some c, t => SpellsChar writesUnits c t

/-- The next character is taken as it is written, or the closing quote is. -/
theorem takes_character? (hunits : reader.Takes writesUnits) :
    (character? reader).Takes (SpellsNext writesUnits) := by
  intro s next rest
  simp only [character?, run_bind_eq_ok, run_next_eq_ok]
  constructor
  · rintro ⟨c, behind, rfl, h⟩
    split at h
    next hquote =>
      obtain ⟨rfl, rfl⟩ := run_pure_eq_ok.mp h
      exact ⟨['"'], rfl, by rw [hquote, List.singleton_append]⟩
    next hquote =>
      split at h
      next hbackslash =>
        obtain ⟨d, hd, rfl⟩ := run_map_eq_ok.mp h
        obtain ⟨t, ht, rfl⟩ := (takes_escape hunits).mp hd
        exact ⟨'\\' :: t, ht, by rw [hbackslash, List.cons_append]⟩
      next hbackslash =>
        split at h
        next => cases h
        next hcontrol =>
          obtain ⟨rfl, rfl⟩ := run_pure_eq_ok.mp h
          exact ⟨[c], .plain hquote hbackslash (by omega), rfl⟩
  · rintro ⟨t, ht, rfl⟩
    cases next with
    | none => exact ⟨'"', rest, by rw [ht, List.singleton_append], rfl⟩
    | some c =>
        have hescape {t : List Char} (ht : SpellsChar writesUnits c ('\\' :: t)) :=
          (takes_escape hunits).run_append ht rest
        cases ht with
        | plain hquote hbackslash hcontrol =>
            refine ⟨c, rest, rfl, ?_⟩
            rw [if_neg hquote, if_neg hbackslash, if_neg (by omega), run_pure]
        | short h => exact ⟨'\\', _, rfl, run_map_eq_ok.mpr ⟨c, hescape (.short h), rfl⟩⟩
        | units h => exact ⟨'\\', _, rfl, run_map_eq_ok.mpr ⟨c, hescape (.units h), rfl⟩⟩

/-- Characters are taken up to the first quote that no backslash escapes. -/
theorem takeCharacters_eq_ok (hunits : reader.Takes writesUnits) {s cs rest : List Char} :
    takeCharacters reader s = .ok (cs, rest) ↔
      ∃ t, SpellsText writesUnits cs t ∧ s = t ++ '"' :: rest := by
  constructor
  · intro h
    fun_induction takeCharacters reader s generalizing cs rest with
    | case1 => cases h
    | case2 s behind hnext =>
        cases h
        obtain ⟨t, rfl, rfl⟩ := (takes_character? hunits).mp hnext
        exact ⟨[], .nil, rfl⟩
    | case3 s c behind hnext ih =>
        obtain ⟨t, ht, rfl⟩ := (takes_character? hunits).mp hnext
        cases hmore : takeCharacters reader behind with
        | error e => simp [hmore, Except.map] at h
        | ok taken =>
            simp only [hmore, Except.map, Except.ok.injEq, Prod.mk.injEq] at h
            obtain ⟨rfl, rfl⟩ := h
            obtain ⟨u, hu, rfl⟩ := ih hmore
            exact ⟨t ++ u, .cons ht hu, by rw [List.append_assoc]⟩
  · rintro ⟨t, ht, rfl⟩
    have htakes := takes_character? hunits
    -- by induction on the characters that are spelled
    induction ht with
    | nil =>
        have hnext := htakes.run_append (a := none) rfl rest
        rw [List.singleton_append] at hnext
        rw [List.nil_append, takeCharacters]
        split <;> simp_all
    | @cons c cs s t hc _ ih =>
        have hnext := htakes.run_append (a := some c) hc (t ++ '"' :: rest)
        rw [List.append_assoc, takeCharacters]
        split <;> simp_all [Except.map]

end

/-- A string is taken up to its closing quote, and only as characters. -/
theorem takes_stringBody :
    stringBody.Takes fun text t => ∃ u, SpellsText PairedUnits text.toList u ∧ t = u ++ ['"'] := by
  intro s text rest
  rw [stringBody, run_map_eq_ok]
  constructor
  · rintro ⟨cs, hcs, rfl⟩
    obtain ⟨t, ht, rfl⟩ := (takeCharacters_eq_ok takes_unicode).mp hcs
    exact ⟨t ++ ['"'], ⟨t, by rwa [String.toList_ofList], rfl⟩, by simp⟩
  · rintro ⟨_, ⟨t, ht, rfl⟩, rfl⟩
    refine ⟨text.toList, (takeCharacters_eq_ok takes_unicode).mpr ⟨t, ht, by simp⟩, ?_⟩
    exact String.ofList_toList

/-- A string that nobody wants is taken up to its closing quote, with units of any worth in it. -/
theorem takes_skipString :
    skipString.Takes fun _ t => ∃ cs u, SpellsText LooseUnit cs u ∧ t = u ++ ['"'] := by
  have hunits : ((fun _ => Text.replacement) <$> unit).Takes LooseUnit := by
    intro s c rest
    rw [takes_unit.map _]
    simp only [LooseUnit, exists_and_left, eq_comm]
  intro s u rest
  rw [skipString, run_map_eq_ok]
  constructor
  · rintro ⟨cs, hcs, -⟩
    obtain ⟨t, ht, rfl⟩ := (takeCharacters_eq_ok hunits).mp hcs
    exact ⟨t ++ ['"'], ⟨cs, t, ht, rfl⟩, by simp⟩
  · rintro ⟨_, ⟨cs, t, ht, rfl⟩, rfl⟩
    exact ⟨cs, (takeCharacters_eq_ok hunits).mpr ⟨t, ht, by simp⟩, rfl⟩

/-- What is spelled as characters is spelled as units too. -/
theorem exists_spellsText_loose {cs s : List Char} (h : SpellsText PairedUnits cs s) :
    ∃ ds, SpellsText LooseUnit ds s := by
  have hloose {n : Nat} {t : List Char} (hn : SpellsUnit n ('\\' :: 'u' :: t)) :
      SpellsChar LooseUnit Text.replacement ('\\' :: 'u' :: t) := .units ⟨rfl, n, hn⟩
  induction h with
  | nil => exact ⟨[], .nil⟩
  | @cons c cs s t hc _ ih =>
      obtain ⟨ds, hds⟩ := ih
      cases hc with
      | plain hquote hbackslash hcontrol =>
          exact ⟨c :: ds, .cons (.plain hquote hbackslash hcontrol) hds⟩
      | short hletter => exact ⟨c :: ds, .cons (.short hletter) hds⟩
      | units hunits =>
          -- a pair is two units that stand alone
          obtain ⟨n, hn, -⟩ | ⟨high, low, t₁, t₂, rfl, h₁, h₂, -⟩ := pairedUnits_iff.mp hunits
          · exact ⟨_, .cons (hloose hn) hds⟩
          · have hboth := SpellsText.cons (hloose h₁) (.cons (hloose h₂) hds)
            exact ⟨_, by simpa using hboth⟩

theorem WritesString.quotation {text : String} {s : List Char} (h : WritesString text s) :
    Quotation s := by
  obtain ⟨t, ht, rfl⟩ := h
  obtain ⟨ds, hds⟩ := exists_spellsText_loose ht
  exact ⟨ds, t, hds, rfl⟩

end ProcessLaunch.Json
