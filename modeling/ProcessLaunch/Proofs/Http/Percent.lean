import ProcessLaunch.Http.Percent
import ProcessLaunch.Text.Utf8

/-!
# Percent-encoding and UTF-8

Decoding gives a text its UTF-8 exactly where no percent sign of it begins an escape: each escape
makes it shorter.  Encoding never changes what a text decodes to.
-/

namespace ProcessLaunch.Http

open ProcessLaunch.Text (hexDigitUpper hexValue? byteLength)

/-- What holds of each character of a text can be found out by going through the text. -/
theorem forall_mem_of_all {P : Char → Prop} [DecidablePred P] {s : List Char}
    (h : s.all (fun c => decide (P c)) = true) : ∀ c ∈ s, P c := by
  intro c hc
  exact of_decide_eq_true (List.all_eq_true.mp h c hc)

/-! ## Bytes -/

def utf8 (s : List Char) : List UInt8 := s.flatMap String.utf8EncodeChar

@[simp] theorem utf8_cons (c : Char) (s : List Char) :
    utf8 (c :: s) = String.utf8EncodeChar c ++ utf8 s := List.flatMap_cons

theorem length_utf8 (s : List Char) : (utf8 s).length = byteLength s := by
  induction s with
  | nil => rfl
  | cons c s ih =>
    rw [utf8_cons, List.length_append, String.length_utf8EncodeChar, ih, Text.byteLength_cons]

theorem data_toUTF8 (s : String) : s.toUTF8.data.toList = utf8 s.toList := by
  show s.toByteArray.data.toList = _
  rw [← String.ofList_toList (s := s), String.toByteArray_ofList, String.toList_ofList]
  exact List.toList_data_toByteArray

theorem utf8_injective {s t : List Char} (h : utf8 s = utf8 t) : s = t := by
  have hbytes : s.utf8Encode = t.utf8Encode := congrArg List.toByteArray h
  have htext : String.ofList s = String.ofList t := by
    rw [← String.toByteArray_inj, String.toByteArray_ofList, String.toByteArray_ofList, hbytes]
  exact String.ofList_injective htext

/-- A selection that takes as many bytes as the text is all of it. -/
theorem eq_of_sublist_of_byteLength_le {s t : List Char} (h : s.Sublist t)
    (hlen : byteLength t ≤ byteLength s) : s = t := by
  have hle : ∀ {s t : List Char}, s.Sublist t → byteLength s ≤ byteLength t := by
    intro s t h
    induction h with
    | slnil => exact Nat.le_refl _
    | cons c _ ih => rw [Text.byteLength_cons]; omega
    | cons_cons c _ ih => rw [Text.byteLength_cons, Text.byteLength_cons]; omega
  induction h with
  | slnil => rfl
  | cons c h _ =>
    -- the character that is left out takes at least one byte
    have := hle h
    have := c.utf8Size_pos
    rw [Text.byteLength_cons] at hlen
    omega
  | cons_cons c h ih =>
    rw [Text.byteLength_cons, Text.byteLength_cons] at hlen
    rw [ih (by omega)]

/-! ## Escapes -/

def beginsWithDigits : List Char → Bool
  | a :: b :: _ => (hexValue? a).isSome && (hexValue? b).isSome
  | _ => false

/-- Whether some percent sign of a text begins an escape. -/
def hasEscape : List Char → Bool
  | [] => false
  | c :: rest => (c == '%' && beginsWithDigits rest) || hasEscape rest

theorem percentDecode_escape {a b : Char} {high low : Nat} (ha : hexValue? a = some high)
    (hb : hexValue? b = some low) (s : List Char) :
    percentDecode ('%' :: a :: b :: s) = (high * 16 + low).toUInt8 :: percentDecode s := by
  rw [percentDecode, ha, hb]

/-- A character that begins no escape stands for its own UTF-8. -/
theorem percentDecode_cons {c : Char} {s : List Char}
    (h : (c == '%' && beginsWithDigits s) = false) :
    percentDecode (c :: s) = String.utf8EncodeChar c ++ percentDecode s := by
  by_cases hc : c = '%'
  · subst hc
    match s with
    | [] => rfl
    | [a] => rfl
    | a :: b :: rest =>
      rw [percentDecode]
      split
      · next ha hb => simp [beginsWithDigits, ha, hb] at h
      · rfl
  · rw [percentDecode]
    rintro a b rest ⟨⟩
    exact absurd rfl hc

/-- Without an escape, decoding gives the bytes of the text. -/
theorem percentDecode_of_not_hasEscape {s : List Char} (h : hasEscape s = false) :
    percentDecode s = utf8 s := by
  induction s with
  | nil => rfl
  | cons c s ih =>
    rw [hasEscape, Bool.or_eq_false_iff] at h
    rw [percentDecode_cons h.1, ih h.2, utf8_cons]

/-- Decoding never makes a text longer. -/
theorem length_percentDecode_le (s : List Char) :
    (percentDecode s).length ≤ byteLength s := by
  fun_induction percentDecode s with
  | case1 a b rest high low ha hb ih =>
    simp only [List.length_cons, Text.byteLength_cons]
    have := a.utf8Size_pos
    have := b.utf8Size_pos
    have := ('%' : Char).utf8Size_pos
    omega
  -- an escape has three bytes and leaves one; a percent sign that begins none stays
  | case2 a b rest _ ih =>
    have := ('%' : Char).utf8Size_pos
    simp only [List.length_cons, Text.byteLength_cons] at *
    omega
  | case3 c rest _ ih =>
    rw [List.length_append, String.length_utf8EncodeChar, Text.byteLength_cons]
    omega
  | case4 => exact Nat.le_refl _

/-- Each escape makes the decoded text shorter. -/
theorem length_percentDecode_lt {s : List Char} (h : hasEscape s = true) :
    (percentDecode s).length < byteLength s := by
  induction s with
  | nil => cases h
  | cons c s ih =>
    by_cases hescape : (c == '%' && beginsWithDigits s) = true
    · match s with
      | [] => simp [beginsWithDigits] at hescape
      | [a] => simp [beginsWithDigits] at hescape
      | a :: b :: rest =>
        simp only [beginsWithDigits, Bool.and_eq_true, beq_iff_eq, Option.isSome_iff_exists]
          at hescape
        obtain ⟨rfl, ⟨high, ha⟩, low, hb⟩ := hescape
        -- three characters of at least one byte each stand for one byte
        rw [percentDecode_escape ha hb, List.length_cons]
        simp only [Text.byteLength_cons]
        have := length_percentDecode_le rest
        have := a.utf8Size_pos
        have := b.utf8Size_pos
        have := ('%' : Char).utf8Size_pos
        omega
    · have hrest : hasEscape s = true := by
        simpa only [hasEscape, hescape, Bool.false_or] using h
      have hlt := ih hrest
      rw [percentDecode_cons (Bool.eq_false_iff.mpr hescape), List.length_append,
        String.length_utf8EncodeChar, Text.byteLength_cons]
      omega

/-! ## Encoding -/

theorem hexValue?_hexDigitUpper (n : Nat) : hexValue? (hexDigitUpper n) = some (n % 16) := by
  have hdigits : ∀ d < 16, hexValue? (Text.hexDigitUpper d) = some d := by decide
  rw [← hdigits (n % 16) (Nat.mod_lt _ (by decide)), hexDigitUpper, hexDigitUpper, Text.hexDigit,
    Text.hexDigit, Nat.mod_mod]

theorem percentDecode_percentByte (b : UInt8) (s : List Char) :
    percentDecode (percentByte b ++ s) = b :: percentDecode s := by
  have hvalue : (b.toNat / 16 % 16 * 16 + b.toNat % 16).toUInt8 = b := by
    have hlt := b.toNat_lt
    rw [show b.toNat / 16 % 16 * 16 + b.toNat % 16 = b.toNat by omega]
    exact UInt8.ofNat_toNat
  show percentDecode ('%' :: hexDigitUpper (b.toNat / 16) :: hexDigitUpper b.toNat :: s) = _
  rw [percentDecode_escape (hexValue?_hexDigitUpper _) (hexValue?_hexDigitUpper _), hvalue]

theorem percentDecode_percentBytes (bytes : List UInt8) (s : List Char) :
    percentDecode (bytes.flatMap percentByte ++ s) = bytes ++ percentDecode s := by
  induction bytes with
  | nil => rfl
  | cons b bytes ih =>
    rw [List.flatMap_cons, List.append_assoc, percentDecode_percentByte, ih, List.cons_append]

theorem percentEncode_append (set : Char → Bool) (s t : List Char) :
    percentEncode set (s ++ t) = percentEncode set s ++ percentEncode set t := List.flatMap_append

theorem percentEncode_cons_of_mem {set : Char → Bool} {c : Char} (h : set c = true)
    (s : List Char) :
    percentEncode set (c :: s) =
      (String.utf8EncodeChar c).flatMap percentByte ++ percentEncode set s := by
  simp [percentEncode, h]

theorem percentEncode_cons_of_not_mem {set : Char → Bool} {c : Char} (h : set c = false)
    (s : List Char) : percentEncode set (c :: s) = c :: percentEncode set s := by
  simp [percentEncode, h]

theorem percentEncode_eq_self {set : Char → Bool} {s : List Char} (h : ∀ c ∈ s, set c = false) :
    percentEncode set s = s := by
  induction s with
  | nil => rfl
  | cons c s ih =>
    rw [percentEncode_cons_of_not_mem (h c (by simp)), ih fun d hd => h d (by simp [hd])]

/-- What encoding writes is a percent sign, a digit, or a character outside of the set. -/
theorem mem_percentEncode {set : Char → Bool} {s : List Char} {c : Char}
    (h : c ∈ percentEncode set s) :
    c = '%' ∨ (hexValue? c).isSome = true ∨ (c ∈ s ∧ set c = false) := by
  obtain ⟨d, hd, hc⟩ := List.mem_flatMap.mp h
  split at hc
  · obtain ⟨b, -, hb⟩ := List.mem_flatMap.mp hc
    simp only [percentByte, List.mem_cons, List.not_mem_nil, or_false] at hb
    obtain rfl | rfl | rfl := hb
    · exact .inl rfl
    · exact .inr (.inl (by rw [hexValue?_hexDigitUpper]; rfl))
    · exact .inr (.inl (by rw [hexValue?_hexDigitUpper]; rfl))
  · next hset =>
    obtain rfl := List.mem_singleton.mp hc
    exact .inr (.inr ⟨hd, by simpa using hset⟩)

/-- A set in which neither the percent sign nor a digit is. -/
structure SparesEscapes (set : Char → Bool) : Prop where
  percent : set '%' = false
  digit : ∀ {c}, set c = true → hexValue? c = none

/-- Paths are encoded without touching the escapes that they have. -/
theorem sparesEscapes_pathSet : SparesEscapes pathSet where
  percent := by decide
  digit := by
    intro c hc
    have hascii : ∀ n < 0x7f, pathSet (Char.ofNat n) = true → hexValue? (Char.ofNat n) = none := by
      decide
    by_cases hlt : c.toNat < 0x7f
    · have h := hascii c.toNat hlt
      rw [Char.ofNat_toNat] at h
      exact h hc
    · simp only [hexValue?]
      rw [if_neg (by omega), if_neg (by omega), if_neg (by omega)]

theorem exists_cons_percentBytes (c : Char) :
    ∃ rest, (String.utf8EncodeChar c).flatMap percentByte = '%' :: rest := by
  have hne : String.utf8EncodeChar c ≠ [] := by
    intro hnil
    have hlen := String.length_utf8EncodeChar c
    rw [hnil] at hlen
    exact absurd hlen.symm (Nat.ne_of_gt c.utf8Size_pos)
  obtain ⟨b, bytes, hbytes⟩ := List.exists_cons_of_ne_nil hne
  rw [hbytes, List.flatMap_cons]
  exact ⟨_, rfl⟩

/-- Encoding puts no digits behind a percent sign that has none. -/
theorem beginsWithDigits_percentEncode (set : Char → Bool) {s : List Char}
    (h : beginsWithDigits s = false) : beginsWithDigits (percentEncode set s) = false := by
  -- an encoded character begins with a percent sign, which is no digit
  have hpercent : hexValue? '%' = none := by decide
  match s with
  | [] => rfl
  | a :: rest =>
    by_cases ha : set a = true
    · -- the percent sign of the encoded character is no digit
      obtain ⟨more, hmore⟩ := exists_cons_percentBytes a
      rw [percentEncode_cons_of_mem ha, hmore]
      cases hrest : more ++ percentEncode set rest <;> simp [hrest, beginsWithDigits, hpercent]
    · rw [percentEncode_cons_of_not_mem (by simpa using ha)]
      match rest with
      | [] => rfl
      | b :: rest =>
        by_cases hb : set b = true
        · obtain ⟨more, hmore⟩ := exists_cons_percentBytes b
          rw [percentEncode_cons_of_mem hb, hmore]
          simp [beginsWithDigits, hpercent]
        · rw [percentEncode_cons_of_not_mem (by simpa using hb)]
          exact h

/-- Encoding keeps what a text decodes to. -/
theorem percentDecode_percentEncode {set : Char → Bool} (hset : SparesEscapes set)
    (s : List Char) : percentDecode (percentEncode set s) = percentDecode s := by
  have hdigit : ∀ {c n}, hexValue? c = some n → set c = false := by
    intro c n hc
    rw [Bool.eq_false_iff]
    intro hmem
    rw [hset.digit hmem] at hc
    cases hc
  -- a character that begins no escape stands for its own UTF-8, encoded or not
  have hplain : ∀ {c s}, (c == '%' && beginsWithDigits s) = false →
      percentDecode (percentEncode set s) = percentDecode s →
      percentDecode (percentEncode set (c :: s)) = String.utf8EncodeChar c ++ percentDecode s := by
    intro c s h ih
    by_cases hc : set c = true
    · rw [percentEncode_cons_of_mem hc, percentDecode_percentBytes, ih]
    · rw [percentEncode_cons_of_not_mem (by simpa using hc), percentDecode_cons, ih]
      rw [Bool.and_eq_false_iff] at h ⊢
      exact h.imp_right (beginsWithDigits_percentEncode set)
  fun_induction percentDecode s with
  | case1 a b rest high low ha hb ih =>
    rw [percentEncode_cons_of_not_mem hset.percent, percentEncode_cons_of_not_mem (hdigit hb),
      percentEncode_cons_of_not_mem (hdigit ha), percentDecode_escape hb ha, ih]
  | case2 a b rest hdigits ih =>
    refine hplain ?_ ih
    rw [Bool.and_eq_false_iff, beginsWithDigits, Bool.and_eq_false_iff]
    cases ha : hexValue? a with
    | none => exact .inr (.inl rfl)
    | some high =>
      cases hb : hexValue? b with
      | none => exact .inr (.inr rfl)
      | some low => exact (hdigits high low ha hb).elim
  | case3 c rest hshort ih =>
    refine hplain ?_ ih
    match rest with
    | [] => rw [beginsWithDigits, Bool.and_false]; simp
    | [a] => rw [beginsWithDigits, Bool.and_false]; simp
    | a :: b :: rest =>
      have hc : c ≠ '%' := fun hc => hshort a b rest hc rfl
      rw [beq_eq_false_iff_ne.mpr hc, Bool.false_and]
  | case4 => rfl

end ProcessLaunch.Http
