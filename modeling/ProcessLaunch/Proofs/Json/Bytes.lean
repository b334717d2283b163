import ProcessLaunch.Proofs.Json.String
import ProcessLaunch.Proofs.Text.Utf8

/-!
# Documents in bytes

A document that is given in bytes is read as the text whose UTF-8 they are.  What is not UTF-8 may
stand in a string that nobody wants, like any other character; a string that is read is spelled
without it, and so is everything outside strings.
-/

namespace ProcessLaunch.Json

open Properties

/-! ## 1. UTF-8 -/

/-- Bytes that are UTF-8 are read as their text. -/
theorem textOfBytes_toUTF8 (text : String) : textOfBytes text.toUTF8 = text.toList := by
  rw [textOfBytes, Http.data_toUTF8, Text.decodeWith_utf8]

/-! ## 2. Bytes that are not UTF-8 -/

theorem spellsText_stray {cs t : List Char} (h : SpellsText LooseUnit cs t) :
    SpellsText LooseUnit (Text.replacement :: Text.replacement :: cs) (stray ++ t) := by
  have hunit : SpellsUnit 0xdc80 ['\\', 'u', 'd', 'c', '8', '0'] :=
    spellsUnit_iff.mpr ⟨'d', 'c', '8', '0', rfl, rfl⟩
  have hhalf : SpellsChar LooseUnit Text.replacement ['\\', 'u', 'd', 'c', '8', '0'] :=
    .units ⟨rfl, 0xdc80, hunit⟩
  have hplain : SpellsChar LooseUnit Text.replacement [Text.replacement] :=
    .plain (by decide) (by decide) (by decide)
  show SpellsText LooseUnit _ ([Text.replacement] ++ (['\\', 'u', 'd', 'c', '8', '0'] ++ t))
  exact .cons hplain (.cons hhalf h)

/-- A unit is spelled in ASCII. -/
theorem replacement_notMem_unit {n : Nat} {s : List Char} (h : SpellsUnit n s) :
    Text.replacement ∉ s := by
  have hdigit {d : Nat} {c : Char} (hc : ShowsDigit d c) : Text.replacement ≠ c := by
    rintro rfl
    have hvalue := hexValue?_of_showsDigit hc
    rw [show Text.hexValue? Text.replacement = none from rfl] at hvalue
    cases hvalue
  cases h with
  | digits ha hb hc hd =>
      have hmarks : Text.replacement ≠ '\\' ∧ Text.replacement ≠ 'u' := by decide
      simp [hdigit ha, hdigit hb, hdigit hc, hdigit hd, hmarks]

theorem replacement_notMem_units {c : Char} {t : List Char} (h : PairedUnits c t) :
    Text.replacement ∉ t := by
  obtain ⟨n, hunit, -⟩ | ⟨high, low, t₁, t₂, rfl, h₁, h₂, -⟩ := pairedUnits_iff.mp h
  · exact fun hmem =>
      replacement_notMem_unit hunit (List.mem_cons_of_mem _ (List.mem_cons_of_mem _ hmem))
  · intro hmem
    obtain hmem | hmem := List.mem_append.mp hmem
    · exact replacement_notMem_unit h₁ (List.mem_cons_of_mem _ (List.mem_cons_of_mem _ hmem))
    · exact replacement_notMem_unit h₂ hmem

/-- A word stands behind a text that does not have its first character. -/
theorem infix_of_notMem {c : Char} {word s t : List Char} (hc : c ∉ s)
    (h : c :: word <:+: s ++ t) : c :: word <:+: t := by
  induction s with
  | nil => exact h
  | cons d s ih =>
      obtain hfront | hbehind := List.infix_cons_iff.mp h
      · exact absurd (List.cons_prefix_cons.mp hfront).1 (List.ne_of_not_mem_cons hc)
      · exact ih (List.not_mem_of_not_mem_cons hc) hbehind

/-- The half of a pair that ends what stands for other bytes begins no text. -/
theorem not_half_prefix_of_spellsText {cs t : List Char} (h : SpellsText PairedUnits cs t) :
    ¬['\\', 'u', 'd', 'c', '8', '0'] <+: t := by
  rintro ⟨rest, hrest⟩
  cases h with
  | nil => cases hrest
  | cons hc ht =>
      cases hc with
      | plain _ hbackslash => exact hbackslash (List.cons.inj hrest).1.symm
      | short hletter =>
          have hu := (List.cons.inj (List.cons.inj hrest).2).1
          subst hu
          simp [shortEscapes] at hletter
      | units hunits =>
          have hdigits := (List.cons.inj (List.cons.inj hrest).2).2
          -- alone or as the first of a pair, the unit would have to be another
          obtain ⟨n, hn, -, hlow, -⟩ | ⟨high, low, t₁, t₂, rfl, hn, -, hhigh, -⟩ :=
            pairedUnits_iff.mp hunits
          · obtain ⟨w, x, y, z, hspelled, hvalue⟩ := spellsUnit_iff.mp hn
            simp only [List.cons.injEq, true_and] at hspelled
            subst hspelled
            cases hdigits
            cases hvalue
            cases hlow
          · obtain ⟨w, x, y, z, hspelled, hvalue⟩ := spellsUnit_iff.mp hn
            simp only [List.cons.injEq, true_and] at hspelled
            subst hspelled
            cases hdigits
            cases hvalue
            cases hhigh

theorem not_stray_infix_of_spellsText {cs t : List Char} (h : SpellsText PairedUnits cs t) :
    ¬stray <:+: t := by
  induction h with
  | nil => exact fun hstray => absurd (List.eq_nil_of_infix_nil hstray) (by decide)
  | @cons c cs s t hc ht ih =>
      intro hstray
      cases hc with
      | plain hquote hbackslash hcontrol =>
          -- here alone it may begin, and then its half of a pair comes next
          obtain hfront | hbehind := List.infix_cons_iff.mp hstray
          · exact not_half_prefix_of_spellsText ht (List.cons_prefix_cons.mp hfront).2
          · exact ih hbehind
      | @short letter c hletter =>
          have hnot : Text.replacement ∉ ['\\', letter] := by
            have hletters : ∀ entry ∈ shortEscapes, Text.replacement ∉ ['\\', entry.1] := by decide
            exact hletters _ hletter
          exact ih (infix_of_notMem hnot hstray)
      | @units c t hunits =>
          have hnot : Text.replacement ∉ '\\' :: 'u' :: t := by
            have hmarks : Text.replacement ≠ '\\' ∧ Text.replacement ≠ 'u' := by decide
            simp [hmarks, replacement_notMem_units hunits]
          exact ih (infix_of_notMem hnot hstray)

/-- Where a string is passed over, bytes that are not UTF-8 are passed over with it. -/
theorem run_skipString_stray {s rest : List Char} (h : skipString.run s = .ok ((), rest)) :
    skipString.run (stray ++ s) = .ok ((), rest) := by
  obtain ⟨_, ⟨cs, t, ht, rfl⟩, rfl⟩ := takes_skipString.mp h
  rw [← List.append_assoc]
  exact takes_skipString.mpr ⟨_, ⟨_, stray ++ t, spellsText_stray ht, rfl⟩, by simp⟩

/-- Where a string is read, there are none up to its closing quote. -/
theorem no_stray_of_run_stringBody {s rest : List Char} {text : String}
    (h : stringBody.run s = .ok (text, rest)) :
    ∃ t, s = t ++ '"' :: rest ∧ ¬stray <:+: t := by
  obtain ⟨_, ⟨t, ht, rfl⟩, rfl⟩ := takes_stringBody.mp h
  exact ⟨t, by rw [List.append_assoc, List.singleton_append], not_stray_infix_of_spellsText ht⟩

end ProcessLaunch.Json
