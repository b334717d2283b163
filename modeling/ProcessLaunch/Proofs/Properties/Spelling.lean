import Mathlib.Tactic.IntervalCases
import ProcessLaunch.Proofs.Properties.Line
import ProcessLaunch.Proofs.Properties.Unescape
import ProcessLaunch.Properties.Entry

/-!
# Spellings

The ways in which a character may be written in a properties text: as it is, behind a backslash, as
the letter of a control character, or as its UTF-16 units in hexadecimal digits.  Whatever the way,
the spelling reads back as the character and shows no separator, no comment mark and no line end.
-/

namespace ProcessLaunch.Properties

open Text

/-! ## 1. Ways of writing -/

def ShowsDigit (digit : Nat) (c : Char) : Prop :=
  "0123456789abcdef".toList[digit]? = some c ∨ "0123456789ABCDEF".toList[digit]? = some c

instance (digit : Nat) (c : Char) : Decidable (ShowsDigit digit c) :=
  inferInstanceAs (Decidable (_ ∨ _))

inductive SpellsUnit : Nat → List Char → Prop
  | digits {a b c d : Nat} {w x y z : Char} (ha : ShowsDigit a w) (hb : ShowsDigit b x)
      (hc : ShowsDigit c y) (hd : ShowsDigit d z) :
      SpellsUnit (a * 16 ^ 3 + b * 16 ^ 2 + c * 16 + d) ['\\', 'u', w, x, y, z]

def utf16Units (c : Char) : List Nat :=
  if c.toNat < 0x10000 then [c.toNat]
  else [0xd800 + (c.toNat - 0x10000) / 0x400, 0xdc00 + (c.toNat - 0x10000) % 0x400]

inductive SpellsUnits : List Nat → List Char → Prop
  | nil : SpellsUnits [] []
  | cons {unit : Nat} {units : List Nat} {s t : List Char} (h : SpellsUnit unit s)
      (ht : SpellsUnits units t) : SpellsUnits (unit :: units) (s ++ t)

inductive SpellsChar : Char → List Char → Prop
  | plain {c : Char} (hblank : isBlank c = false) (hmark : c ∉ ['\\', '=', ':', '#', '!']) :
      SpellsChar c [c]
  | escaped {c : Char} (h : c ∉ ['t', 'n', 'r', 'f', 'u', '\n', '\r']) : SpellsChar c ['\\', c]
  | tab : SpellsChar '\t' ['\\', 't']
  | newline : SpellsChar '\n' ['\\', 'n']
  | carriageReturn : SpellsChar '\r' ['\\', 'r']
  | formFeed : SpellsChar '\x0c' ['\\', 'f']
  | units {c : Char} {s : List Char} (h : SpellsUnits (utf16Units c) s) : SpellsChar c s

inductive Spells : List Char → List Char → Prop
  | nil : Spells [] []
  | cons {c : Char} {cs s t : List Char} (h : SpellsChar c s) (ht : Spells cs t) :
      Spells (c :: cs) (s ++ t)

/-! ## 2. Digits and units -/

theorem lt_of_showsDigit {digit : Nat} {c : Char} (h : ShowsDigit digit c) : digit < 16 := by
  rcases h with h | h
  · exact (List.getElem?_eq_some_iff.mp h).1
  · exact (List.getElem?_eq_some_iff.mp h).1

theorem hexValue?_of_showsDigit {digit : Nat} {c : Char} (h : ShowsDigit digit c) :
    hexValue? c = some digit := by
  -- sixteen digits in two cases
  have hlt := lt_of_showsDigit h
  interval_cases digit <;> rcases h with h | h <;> cases h <;> decide

/-- A unit that is spelled has four digits, and they are read as that unit. -/
theorem hexUnit?_of_spellsUnit {unit : Nat} {s : List Char} (h : SpellsUnit unit s) :
    ∃ w x y z, s = ['\\', 'u', w, x, y, z] ∧ hexUnit? w x y z = some unit := by
  cases h with
  | @digits a b c d w x y z ha hb hc hd =>
      refine ⟨w, x, y, z, rfl, ?_⟩
      simp only [hexUnit?, hexValue?_of_showsDigit ha, hexValue?_of_showsDigit hb,
        hexValue?_of_showsDigit hc, hexValue?_of_showsDigit hd, Option.bind_eq_bind,
        Option.bind_some, Option.pure_def, Option.some.injEq]
      omega

theorem showsDigit_of_hexValue? {c : Char} {digit : Nat} (h : hexValue? c = some digit) :
    ShowsDigit digit c := by
  -- every digit is one of the first characters, and those can be gone through
  have hascii : ∀ n < 0x67, ∀ d < 16, hexValue? (Char.ofNat n) = some d →
      ShowsDigit d (Char.ofNat n) := by decide
  have hlt : c.toNat < 0x67 := by
    simp only [hexValue?] at h
    by_contra hge
    rw [if_neg (by omega), if_neg (by omega), if_neg (by omega)] at h
    cases h
  have hself : Char.ofNat c.toNat = c := Char.ofNat_toNat c
  rw [← hself] at h ⊢
  exact hascii _ hlt digit (hexValue?_lt h) h

theorem spellsUnit_iff {n : Nat} {s : List Char} :
    SpellsUnit n s ↔ ∃ w x y z, s = ['\\', 'u', w, x, y, z] ∧ hexUnit? w x y z = some n := by
  refine ⟨hexUnit?_of_spellsUnit, ?_⟩
  rintro ⟨w, x, y, z, rfl, h⟩
  simp only [hexUnit?, Option.bind_eq_bind, Option.bind_eq_some_iff, Option.pure_def,
    Option.some.injEq] at h
  obtain ⟨a, ha, b, hb, c, hc, d, hd, rfl⟩ := h
  have hspells := SpellsUnit.digits (showsDigit_of_hexValue? ha) (showsDigit_of_hexValue? hb)
    (showsDigit_of_hexValue? hc) (showsDigit_of_hexValue? hd)
  rwa [show a * 16 ^ 3 + b * 16 ^ 2 + c * 16 + d = ((a * 16 + b) * 16 + c) * 16 + d by omega]
    at hspells

theorem spellsUnit_lt {n : Nat} {s : List Char} (h : SpellsUnit n s) : n < 65536 := by
  obtain ⟨_, _, _, _, _, h⟩ := spellsUnit_iff.mp h
  exact hexUnit?_lt h

/-- A unit is read exactly if it is spelled. -/
theorem readUnit?_eq_some_iff {s rest : List Char} {unit : Nat} :
    readUnit? s = some (unit, rest) ↔
      ∃ digits, SpellsUnit unit ('\\' :: 'u' :: digits) ∧ s = digits ++ rest := by
  constructor
  · intro h
    match s with
    | w :: x :: y :: z :: tail =>
        obtain ⟨value, hvalue, heq⟩ := Option.map_eq_some_iff.mp h
        obtain ⟨rfl, rfl⟩ := Prod.mk.inj heq
        exact ⟨[w, x, y, z], spellsUnit_iff.mpr ⟨w, x, y, z, rfl, hvalue⟩, rfl⟩
    | [] | [_] | [_, _] | [_, _, _] => cases h
  · rintro ⟨digits, hunit, rfl⟩
    obtain ⟨w, x, y, z, hdigits, hvalue⟩ := hexUnit?_of_spellsUnit hunit
    obtain rfl : digits = [w, x, y, z] := by simpa using hdigits
    exact Option.map_eq_some_iff.mpr ⟨unit, hvalue, rfl⟩

theorem readLowSurrogate?_eq_some_iff {s rest : List Char} {unit : Nat} :
    readLowSurrogate? s = some (unit, rest) ↔
      isLowSurrogate unit = true ∧ ∃ t, SpellsUnit unit t ∧ s = t ++ rest := by
  constructor
  · intro h
    unfold readLowSurrogate? at h
    split at h
    next tail =>
      obtain ⟨hread, hlow⟩ := Option.filter_eq_some_iff.mp h
      obtain ⟨digits, hunit, rfl⟩ := readUnit?_eq_some_iff.mp hread
      exact ⟨hlow, _, hunit, rfl⟩
    next => cases h
  · rintro ⟨hlow, t, hunit, rfl⟩
    obtain ⟨w, x, y, z, rfl, -⟩ := hexUnit?_of_spellsUnit hunit
    exact Option.filter_eq_some_iff.mpr ⟨readUnit?_eq_some_iff.mpr ⟨_, hunit, rfl⟩, hlow⟩

/-- What is written as one unit. -/
theorem eq_of_spellsUnits_one {unit : Nat} {s : List Char} (h : SpellsUnits [unit] s) :
    ∃ w x y z, s = ['\\', 'u', w, x, y, z] ∧ hexUnit? w x y z = some unit := by
  cases h with
  | cons h ht =>
      cases ht
      simpa using hexUnit?_of_spellsUnit h

/-- What is written as two units. -/
theorem eq_of_spellsUnits_two {high low : Nat} {s : List Char} (h : SpellsUnits [high, low] s) :
    ∃ w x y z w' x' y' z',
      s = ['\\', 'u', w, x, y, z, '\\', 'u', w', x', y', z'] ∧
      hexUnit? w x y z = some high ∧ hexUnit? w' x' y' z' = some low := by
  cases h with
  | cons h ht =>
      obtain ⟨w, x, y, z, rfl, hhigh⟩ := hexUnit?_of_spellsUnit h
      obtain ⟨w', x', y', z', rfl, hlow⟩ := eq_of_spellsUnits_one ht
      exact ⟨w, x, y, z, w', x', y', z', rfl, hhigh, hlow⟩

theorem isLowSurrogate_of_isHighSurrogate {n : Nat} (h : isHighSurrogate n = true) :
    isLowSurrogate n = false := by
  simp only [isHighSurrogate, Bool.and_eq_true, decide_eq_true_eq] at h
  simp only [isLowSurrogate, Bool.and_eq_false_iff, decide_eq_false_iff_not]
  omega

/-- A character is no half of a pair. -/
theorem isSurrogate_toNat (c : Char) :
    isHighSurrogate c.toNat = false ∧ isLowSurrogate c.toNat = false := by
  have hvalid : c.toNat < 0xd800 ∨ 0xdfff < c.toNat ∧ c.toNat < 0x110000 := c.valid
  simp only [isHighSurrogate, isLowSurrogate, Bool.and_eq_false_iff, decide_eq_false_iff_not]
  omega

/-- The two halves of a character outside the basic plane make that character: it has twenty bits
beyond the plane, ten in each half. -/
theorem surrogatePair_halves {c : Char} (h : ¬c.toNat < 0x10000) :
    isHighSurrogate (0xd800 + (c.toNat - 0x10000) / 0x400) = true ∧
      isLowSurrogate (0xdc00 + (c.toNat - 0x10000) % 0x400) = true ∧
      surrogatePair (0xd800 + (c.toNat - 0x10000) / 0x400)
        (0xdc00 + (c.toNat - 0x10000) % 0x400) = c := by
  have hvalid : c.toNat < 0xd800 ∨ 0xdfff < c.toNat ∧ c.toNat < 0x110000 := c.valid
  simp only [isHighSurrogate, isLowSurrogate, Bool.and_eq_true, decide_eq_true_eq]
  refine ⟨by omega, by omega, ?_⟩
  rw [surrogatePair, show 0x10000 + (0xd800 + (c.toNat - 0x10000) / 0x400 - 0xd800) * 0x400 +
    (0xdc00 + (c.toNat - 0x10000) % 0x400 - 0xdc00) = c.toNat by omega, Char.ofNat_toNat]

theorem toNat_ofNat {n : Nat} (h : n.isValidChar) : (Char.ofNat n).toNat = n := by
  rw [Char.ofNat, dif_pos h]
  rfl

theorem toNat_ofNat_of_unit {n : Nat} (hlt : n < 65536) (hhigh : isHighSurrogate n = false)
    (hlow : isLowSurrogate n = false) : (Char.ofNat n).toNat = n := by
  simp only [isHighSurrogate, isLowSurrogate, Bool.and_eq_false_iff, decide_eq_false_iff_not]
    at hhigh hlow
  have hvalid : n.isValidChar := by
    show n < 0xd800 ∨ 0xdfff < n ∧ n < 0x110000
    omega
  rw [toNat_ofNat hvalid]

/-- The character of a pair has just the two halves for its units. -/
theorem utf16Units_surrogatePair {high low : Nat} (hhigh : isHighSurrogate high = true)
    (hlow : isLowSurrogate low = true) : utf16Units (surrogatePair high low) = [high, low] := by
  simp only [isHighSurrogate, isLowSurrogate, Bool.and_eq_true, decide_eq_true_eq] at hhigh hlow
  have hvalid : (0x10000 + (high - 0xd800) * 0x400 + (low - 0xdc00)).isValidChar := by
    right
    omega
  have htoNat : (surrogatePair high low).toNat =
      0x10000 + (high - 0xd800) * 0x400 + (low - 0xdc00) := by
    rw [surrogatePair, toNat_ofNat hvalid]
  rw [utf16Units, htoNat, if_neg (by omega),
    show 0xd800 + (0x10000 + (high - 0xd800) * 0x400 + (low - 0xdc00) - 0x10000) / 0x400 = high by
      omega,
    show 0xdc00 + (0x10000 + (high - 0xd800) * 0x400 + (low - 0xdc00) - 0x10000) % 0x400 = low by
      omega]

/-! ## 3. Reading a spelling back -/

/-- The units of a character are read as that character, whatever follows. -/
theorem unescape_append_of_spellsUnits {c : Char} {s : List Char}
    (h : SpellsUnits (utf16Units c) s) (rest : List Char) :
    unescape (s ++ rest) = c :: unescape rest := by
  unfold utf16Units at h
  split at h
  -- one unit: it is the character itself, and no half of a pair
  next hsmall =>
    obtain ⟨w, x, y, z, rfl, hunit⟩ := eq_of_spellsUnits_one h
    have hread : readUnit? (w :: x :: y :: z :: rest) = some (c.toNat, rest) := by
      simp only [readUnit?, hunit, Option.map_some]
    have hread := unescape_unit hread (isSurrogate_toNat c).1 (isSurrogate_toNat c).2
    rwa [Char.ofNat_toNat] at hread
  next hlarge =>
    obtain ⟨w, x, y, z, w', x', y', z', rfl, hhigh, hlow⟩ := eq_of_spellsUnits_two h
    obtain ⟨hishigh, hislow, hpair⟩ := surrogatePair_halves hlarge
    have hread : readUnit? (w :: x :: y :: z :: '\\' :: 'u' :: w' :: x' :: y' :: z' :: rest) =
        some (0xd800 + (c.toNat - 0x10000) / 0x400,
          '\\' :: 'u' :: w' :: x' :: y' :: z' :: rest) := by
      simp only [readUnit?, hhigh, Option.map_some]
    have hreadLow : readLowSurrogate? ('\\' :: 'u' :: w' :: x' :: y' :: z' :: rest) =
        some (0xdc00 + (c.toNat - 0x10000) % 0x400, rest) := by
      simp only [readLowSurrogate?, readUnit?, hlow, Option.map_some, Option.filter_some]
      rw [if_pos hislow]
    have hread := unescape_pair hread hishigh hreadLow
    rwa [hpair] at hread

/-- Whatever the way in which a character is written, it is read back. -/
theorem unescape_append_of_spellsChar {c : Char} {s : List Char} (h : SpellsChar c s)
    (rest : List Char) : unescape (s ++ rest) = c :: unescape rest := by
  cases h with
  | plain hblank hmark => exact unescape_cons (by simp_all) rest
  -- a character that is no letter of a control character stands for itself behind a backslash
  | escaped h =>
      have hread : unescape ('\\' :: c :: rest) = escaped c :: unescape rest :=
        unescape_escaped (by simp_all) rest
      have hself : escaped c = c := by
        unfold escaped
        split <;> simp_all
      rwa [hself] at hread
  | tab => exact unescape_escaped (by decide) rest
  | newline => exact unescape_escaped (by decide) rest
  | carriageReturn => exact unescape_escaped (by decide) rest
  | formFeed => exact unescape_escaped (by decide) rest
  | units h => exact unescape_append_of_spellsUnits h rest

/-- A spelling reads back as the text that it spells. -/
theorem unescape_of_spells {cs s : List Char} (h : Spells cs s) : unescape s = cs := by
  induction h with
  | nil => exact unescape_nil
  | cons h _ ih => rw [unescape_append_of_spellsChar h, ih]

/-! ## 4. What a spelling does not show -/

/-- A text in which blanks and marks stand behind backslashes only, and line ends not even there. -/
inductive Guarded : List Char → Prop
  | nil : Guarded []
  | plain {c : Char} {s : List Char} (hblank : isBlank c = false)
      (hmark : c ∉ ['\\', '=', ':', '#', '!']) (hs : Guarded s) : Guarded (c :: s)
  | escaped {c : Char} {s : List Char} (h : c ∉ ['\n', '\r']) (hs : Guarded s) :
      Guarded ('\\' :: c :: s)

theorem Guarded.append {s t : List Char} (hs : Guarded s) (ht : Guarded t) : Guarded (s ++ t) := by
  induction hs with
  | nil => exact ht
  | plain hblank hmark _ ih => exact .plain hblank hmark ih
  | escaped h _ ih => exact .escaped h ih

theorem not_mark_of_showsDigit {digit : Nat} {c : Char} (h : ShowsDigit digit c) :
    isBlank c = false ∧ c ∉ ['\\', '=', ':', '#', '!'] := by
  have hlt := lt_of_showsDigit h
  interval_cases digit <;> rcases h with h | h <;> cases h <;> decide

theorem guarded_of_spellsUnit {unit : Nat} {s : List Char} (h : SpellsUnit unit s) : Guarded s := by
  cases h with
  | digits ha hb hc hd =>
      obtain ⟨ha, ha'⟩ := not_mark_of_showsDigit ha
      obtain ⟨hb, hb'⟩ := not_mark_of_showsDigit hb
      obtain ⟨hc, hc'⟩ := not_mark_of_showsDigit hc
      obtain ⟨hd, hd'⟩ := not_mark_of_showsDigit hd
      exact .escaped (by decide)
        (.plain ha ha' (.plain hb hb' (.plain hc hc' (.plain hd hd' .nil))))

theorem guarded_of_spellsUnits {units : List Nat} {s : List Char} (h : SpellsUnits units s) :
    Guarded s := by
  induction h with
  | nil => exact .nil
  | cons h _ ih => exact (guarded_of_spellsUnit h).append ih

theorem guarded_of_spellsChar {c : Char} {s : List Char} (h : SpellsChar c s) : Guarded s := by
  cases h with
  | plain hblank hmark => exact .plain hblank hmark .nil
  | escaped h => exact .escaped (by simp_all) .nil
  | tab => exact .escaped (by decide) .nil
  | newline => exact .escaped (by decide) .nil
  | carriageReturn => exact .escaped (by decide) .nil
  | formFeed => exact .escaped (by decide) .nil
  | units h => exact guarded_of_spellsUnits h

theorem guarded_of_spells {cs s : List Char} (h : Spells cs s) : Guarded s := by
  induction h with
  | nil => exact .nil
  | cons h _ ih => exact (guarded_of_spellsChar h).append ih

theorem ne_of_isBlank {c d : Char} (hc : isBlank c = false) (hd : isBlank d = true) : c ≠ d := by
  rintro rfl
  exact absurd hd (by simp [hc])

namespace Guarded

theorem newline_notMem {s : List Char} (h : Guarded s) : '\n' ∉ s := by
  induction h with
  | nil => exact List.not_mem_nil
  | plain hblank _ _ ih =>
      rw [List.mem_cons, not_or]
      exact ⟨(ne_of_isBlank hblank (by decide)).symm, ih⟩
  | escaped h _ ih => simp_all [eq_comm]

/-- The carriage return before a line end is none of the text's. -/
theorem withoutReturn_eq {s : List Char} (h : Guarded s) : withoutReturn s = s := by
  induction h with
  | nil => rfl
  | plain hblank _ _ ih =>
      rw [withoutReturn_cons (.inl (ne_of_isBlank hblank (by decide))), ih]
  | escaped h _ ih =>
      rw [withoutReturn_cons (.inl (by decide)), withoutReturn_cons (.inl (by simp_all)), ih]

/-- A guarded text is closed, since each of its backslashes has something behind it. -/
theorem isOpen_eq_false {s : List Char} (h : Guarded s) : isOpen s = false := by
  rw [isOpen_eq_endsEscaped]
  induction h with
  | nil => rfl
  | plain _ hmark _ ih =>
      rw [endsEscaped, ih]
      · rintro rfl; simp at hmark
      · rintro _ _ rfl; simp at hmark
  | escaped _ _ ih => rw [endsEscaped, ih]

/-- A guarded text begins with no blank. -/
theorem trimStart_eq {s : List Char} (h : Guarded s) : trimStart s = s := by
  cases h with
  | nil => rfl
  | plain hblank _ _ => exact trimStart_cons hblank _
  | escaped _ _ => exact trimStart_cons (by decide) _

/-- The key is spelled up to the end of a guarded text at least. -/
theorem spanKey_append {s : List Char} (h : Guarded s) (rest : List Char) :
    spanKey (s ++ rest) = (s ++ (spanKey rest).1, (spanKey rest).2) := by
  induction h with
  | nil => rfl
  | @plain c s hblank hmark _ ih =>
      simp only [List.mem_cons, List.not_mem_nil, or_false, not_or] at hmark
      have hseparator : isSeparator c = false := by
        simp [isSeparator, hblank, hmark]
      rw [List.cons_append, spanKey, ih, if_neg (by simp [hseparator])]
      · rfl
      · exact fun h => absurd h hmark.1
      · exact fun _ _ h => absurd h hmark.1
  | escaped h _ ih => rw [List.cons_append, List.cons_append, spanKey, ih]; rfl

end Guarded

end ProcessLaunch.Properties
