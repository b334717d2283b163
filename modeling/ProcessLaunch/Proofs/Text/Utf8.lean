import ProcessLaunch.Proofs.Http.Percent

/-!
# Texts in UTF-8

The UTF-8 of a text is read as that text, whatever stands for bytes that are not UTF-8.
-/

namespace ProcessLaunch.Text

variable {stray : List Char} {bits more low high : Nat}

/-! ## 1. One byte -/

theorem toNat_byte {b : Nat} (h : b < 256) : (UInt8.ofNat b).toNat = b :=
  UInt8.toNat_ofNat_of_lt' h

/-- A first byte opens a sequence with the bits and bounds that it announces. -/
theorem decodeFrom_lead {b : Nat} (hb : b < 256)
    (h : leadByte? b = some (bits, more + 1, low, high)) (rest : List UInt8) :
    decodeFrom stray 0 0 0 0 (UInt8.ofNat b :: rest) =
      decodeFrom stray bits (more + 1) low high rest := by
  rw [decodeFrom]
  simp only [toNat_byte hb, h, ne_eq, not_true_eq_false, false_and, if_false, if_true, List.nil_append]

theorem decodeFrom_ascii {b : Nat} (hb : b < 0x80) (rest : List UInt8) :
    decodeFrom stray 0 0 0 0 (UInt8.ofNat b :: rest) =
      Char.ofNat b :: decodeFrom stray 0 0 0 0 rest := by
  have hbyte : (UInt8.ofNat b).toNat = b := toNat_byte (by omega)
  have hlead : leadByte? b = some (b, 0, 0x80, 0xbf) := if_pos hb
  rw [decodeFrom]
  simp only [hbyte, hlead, ne_eq, not_true_eq_false, false_and, if_false, if_true, List.nil_append]

/-- A byte in the middle of a sequence brings six bits. -/
theorem decodeFrom_middle {n : Nat} (hlow : low ≤ n % 64 + 128) (hhigh : n % 64 + 128 ≤ high)
    (rest : List UInt8) :
    decodeFrom stray bits (more + 2) low high (UInt8.ofNat (n % 64 + 128) :: rest) =
      decodeFrom stray (bits * 64 + n % 64) (more + 1) 0x80 0xbf rest := by
  have hbyte : (UInt8.ofNat (n % 64 + 128)).toNat = n % 64 + 128 := toNat_byte (by omega)
  rw [decodeFrom]
  simp only [hbyte]
  rw [if_pos ⟨by omega, hlow, hhigh⟩, if_neg (by omega), Nat.add_sub_cancel]
  rfl

/-- The last byte of a sequence makes the character. -/
theorem decodeFrom_last {n : Nat} (hlow : low ≤ n % 64 + 128) (hhigh : n % 64 + 128 ≤ high)
    (rest : List UInt8) :
    decodeFrom stray bits 1 low high (UInt8.ofNat (n % 64 + 128) :: rest) =
      Char.ofNat (bits * 64 + n % 64) :: decodeFrom stray 0 0 0 0 rest := by
  have hbyte : (UInt8.ofNat (n % 64 + 128)).toNat = n % 64 + 128 := toNat_byte (by omega)
  rw [decodeFrom]
  simp only [hbyte]
  rw [if_pos ⟨by omega, hlow, hhigh⟩, if_pos trivial, Nat.add_sub_cancel]

/-! ## 2. One character -/

theorem leadByte?_two {n : Nat} (hsmall : 0x80 ≤ n) (hlarge : n < 0x800) :
    leadByte? (n / 64 + 192) = some (n / 64, 1, 0x80, 0xbf) := by
  unfold leadByte?
  rw [if_neg (by omega), if_neg (by omega), if_pos (by omega), Nat.add_sub_cancel]

/-- What the first of three bytes announces.  The second byte leaves out the texts that are longer
than they need be and the halves of pairs. -/
theorem leadByte?_three {n : Nat} (hsmall : 0x800 ≤ n) (hlarge : n < 0x10000)
    (hhalf : n < 0xd800 ∨ 0xdfff < n) :
    ∃ low high, leadByte? (n / 4096 + 224) = some (n / 4096, 2, low, high) ∧
      low ≤ n / 64 % 64 + 128 ∧ n / 64 % 64 + 128 ≤ high := by
  unfold leadByte?
  rw [if_neg (by omega), if_neg (by omega), if_neg (by omega)]
  -- the first byte narrows what may follow: `e0` rules out long spellings, `ed` halves of pairs
  by_cases hfirst : n / 4096 + 224 = 0xe0
  · rw [if_pos hfirst]
    have hzero : n / 4096 = 0 := by omega
    exact ⟨_, _, by rw [hzero], by omega, by omega⟩
  · rw [if_neg hfirst]
    by_cases hpairs : n / 4096 + 224 = 0xed
    · rw [if_pos hpairs]
      have hbits : n / 4096 = 0xd := by omega
      exact ⟨_, _, by rw [hbits], by omega, by omega⟩
    · rw [if_neg hpairs, if_pos (by omega), Nat.add_sub_cancel]
      exact ⟨_, _, rfl, by omega, by omega⟩

/-- What the first of four bytes announces. -/
theorem leadByte?_four {n : Nat} (hsmall : 0x10000 ≤ n) (hlarge : n < 0x110000) :
    ∃ low high, leadByte? (n / 262144 + 240) = some (n / 262144, 3, low, high) ∧
      low ≤ n / 4096 % 64 + 128 ∧ n / 4096 % 64 + 128 ≤ high := by
  unfold leadByte?
  rw [if_neg (by omega), if_neg (by omega), if_neg (by omega), if_neg (by omega),
    if_neg (by omega), if_neg (by omega)]
  -- `f0` rules out long spellings, `f4` numbers beyond the last character
  by_cases hfirst : n / 262144 + 240 = 0xf0
  · rw [if_pos hfirst]
    have hzero : n / 262144 = 0 := by omega
    exact ⟨_, _, by rw [hzero], by omega, by omega⟩
  · rw [if_neg hfirst]
    by_cases hlast : n / 262144 + 240 < 0xf4
    · rw [if_pos hlast, Nat.add_sub_cancel]
      exact ⟨_, _, rfl, by omega, by omega⟩
    · rw [if_neg hlast, if_pos (by omega)]
      have hbits : n / 262144 = 4 := by omega
      exact ⟨_, _, by rw [hbits], by omega, by omega⟩

/-- The bytes of a character are read as the character. -/
theorem decodeFrom_utf8EncodeChar (c : Char) (rest : List UInt8) :
    decodeFrom stray 0 0 0 0 (String.utf8EncodeChar c ++ rest) =
      c :: decodeFrom stray 0 0 0 0 rest := by
  have hvalid : c.val.toNat < 0xd800 ∨ 0xdfff < c.val.toNat ∧ c.val.toNat < 0x110000 := c.valid
  have hc : Char.ofNat c.val.toNat = c := Char.ofNat_toNat c
  rw [String.utf8EncodeChar.eq_1]
  generalize c.val.toNat = n at hvalid hc ⊢
  -- one case for each length of a sequence; its bytes are taken one by one
  by_cases hone : n ≤ 127
  · rw [if_pos hone, List.singleton_append, decodeFrom_ascii (by omega), hc]
  · rw [if_neg hone]
    by_cases htwo : n ≤ 2047
    · rw [if_pos htwo, List.cons_append, List.singleton_append, Nat.mod_eq_of_lt (by omega),
        decodeFrom_lead (by omega) (leadByte?_two (by omega) (by omega)),
        decodeFrom_last (by omega) (by omega)]
      have hbits : n / 64 * 64 + n % 64 = n := by omega
      rw [hbits, hc]
    · rw [if_neg htwo]
      by_cases hthree : n ≤ 65535
      · obtain ⟨low, high, hlead, hlow, hhigh⟩ :=
          leadByte?_three (n := n) (by omega) (by omega) (by omega)
        have hfirst : n / 4096 % 16 = n / 4096 := Nat.mod_eq_of_lt (by omega)
        have hbits : (n / 4096 * 64 + n / 64 % 64) * 64 + n % 64 = n := by omega
        rw [if_pos hthree, hfirst, List.cons_append, List.cons_append, List.singleton_append,
          decodeFrom_lead (by omega) hlead, decodeFrom_middle hlow hhigh,
          decodeFrom_last (by omega) (by omega), hbits, hc]
      · obtain ⟨low, high, hlead, hlow, hhigh⟩ :=
          leadByte?_four (n := n) (by omega) (by omega)
        have hfirst : n / 262144 % 8 = n / 262144 := Nat.mod_eq_of_lt (by omega)
        have hbits : ((n / 262144 * 64 + n / 4096 % 64) * 64 + n / 64 % 64) * 64 + n % 64 = n := by
          omega
        rw [if_neg hthree, hfirst, List.cons_append, List.cons_append, List.cons_append,
          List.singleton_append, decodeFrom_lead (by omega) hlead, decodeFrom_middle hlow hhigh,
          decodeFrom_middle (by omega) (by omega), decodeFrom_last (by omega) (by omega), hbits, hc]

/-! ## 3. A text -/

/-- The UTF-8 of a text is read as that text. -/
theorem decodeWith_utf8 (stray s : List Char) : decodeWith stray (Http.utf8 s) = s := by
  unfold decodeWith
  induction s with
  | nil => rfl
  | cons c s ih => rw [Http.utf8_cons, decodeFrom_utf8EncodeChar, ih]

end ProcessLaunch.Text
