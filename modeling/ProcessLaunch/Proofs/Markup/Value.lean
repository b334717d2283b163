import ProcessLaunch.Markup.Reference
import ProcessLaunch.Proofs.Properties.Spelling

/-!
# Written values

The ways in which the value of an attribute may be written between its quotes: each character as it
is, by the name of an entity, or by its number.  Whatever the way, the value is expanded to the text
that it spells, and its own quote does not occur in it.
-/

namespace ProcessLaunch.Markup

open Properties (ShowsDigit hexValue?_of_showsDigit)

/-! ## 1. Ways of writing -/

inductive Denotes (radix : Nat) : List Char → Nat → Prop
  | first {d : Nat} {c : Char} (hc : ShowsDigit d c) (hd : d < radix) : Denotes radix [c] d
  | next {digits : List Char} {n d : Nat} {c : Char} (h : Denotes radix digits n)
      (hc : ShowsDigit d c) (hd : d < radix) : Denotes radix (digits ++ [c]) (n * radix + d)

def predefined : List (List Char × Char) :=
  [("lt".toList, '<'), ("gt".toList, '>'), ("amp".toList, '&'), ("apos".toList, '\''),
    ("quot".toList, '"')]

/-- The ways to write one character between two quotes. -/
inductive SpellsChar (quote : Char) : Char → List Char → Prop
  | plain {c : Char} (hopen : c ≠ '<') (hamp : c ≠ '&') (hquote : c ≠ quote) :
      SpellsChar quote c [c]
  | named {name : List Char} {c : Char} (h : (name, c) ∈ predefined) :
      SpellsChar quote c ('&' :: (name ++ [';']))
  | decimal {digits : List Char} {c : Char} (hc : c ≠ '\x00') (h : Denotes 10 digits c.toNat) :
      SpellsChar quote c ('&' :: '#' :: (digits ++ [';']))
  | hexadecimal {digits : List Char} {c : Char} (hc : c ≠ '\x00') (h : Denotes 16 digits c.toNat) :
      SpellsChar quote c ('&' :: '#' :: 'x' :: (digits ++ [';']))

/-- A value is written character by character, each in a way of its own. -/
inductive Spells (quote : Char) : List Char → List Char → Prop
  | nil : Spells quote [] []
  | cons {c : Char} {cs s t : List Char} (h : SpellsChar quote c s) (ht : Spells quote cs t) :
      Spells quote (c :: cs) (s ++ t)

/-! ## 2. Numbers -/

section

variable {radix n : Nat} {digits : List Char}

/-- A digit is none of the characters that mean something around a reference. -/
theorem Denotes.ne_of_mem (h : Denotes radix digits n) {c d : Char} (hc : c ∈ digits)
    (hd : Text.hexValue? d = none) : c ≠ d := by
  have hdigit : ∃ value, Text.hexValue? c = some value := by
    induction h with
    | first hshows => exact ⟨_, List.mem_singleton.mp hc ▸ hexValue?_of_showsDigit hshows⟩
    | next _ hshows _ ih =>
        rcases List.mem_append.mp hc with hc | hc
        · exact ih hc
        · exact ⟨_, List.mem_singleton.mp hc ▸ hexValue?_of_showsDigit hshows⟩
  intro heq
  subst heq
  rw [hd] at hdigit
  simp at hdigit

theorem Denotes.all_isReferenceName (h : Denotes radix digits n) :
    ∀ c ∈ digits, isReferenceName c = true := by
  intro c hc
  rw [isReferenceName, Bool.and_eq_true, bne_iff_ne, bne_iff_ne]
  exact ⟨h.ne_of_mem hc (by decide), h.ne_of_mem hc (by decide)⟩

theorem Denotes.ne_nil (h : Denotes radix digits n) : digits ≠ [] := by
  cases h with
  | first => exact List.cons_ne_nil _ _
  | next => exact List.append_ne_nil_of_right_ne_nil _ (List.cons_ne_nil _ _)

theorem referenceFrom_append (radix value : Nat) (s t : List Char) :
    referenceFrom radix value (s ++ t) =
      (referenceFrom radix value s).bind fun n => referenceFrom radix n t := by
  induction s generalizing value with
  | nil => rfl
  | cons c s ih =>
      rw [List.cons_append, referenceFrom, referenceFrom]
      split
      · rfl
      · split
        · exact ih _
        · rfl

theorem referenceFrom_singleton {value d : Nat} {c : Char} (hc : ShowsDigit d c) (hd : d < radix)
    (hmax : value * radix + d ≤ maxReference) :
    referenceFrom radix value [c] = .ok (value * radix + d) := by
  have hdigit : digitValue? radix c = some d := by
    rw [digitValue?, hexValue?_of_showsDigit hc, Option.filter_some, decide_eq_true hd, if_pos rfl]
  rw [referenceFrom, hdigit]
  simp only [if_pos hmax, referenceFrom]

theorem referenceFrom_of_denotes (hradix : 0 < radix) (h : Denotes radix digits n)
    (hmax : n ≤ maxReference) : referenceFrom radix 0 digits = .ok n := by
  induction h with
  | @first d c hc hd =>
      have h : referenceFrom radix 0 [c] = .ok (0 * radix + d) :=
        referenceFrom_singleton hc hd (by omega)
      rwa [Nat.zero_mul, Nat.zero_add] at h
  | @next digits n d c _ hc hd ih =>
      -- what stands in front denotes a smaller number
      have hle : n ≤ n * radix := Nat.le_mul_of_pos_right n hradix
      rw [referenceFrom_append, ih (by omega)]
      exact referenceFrom_singleton hc hd hmax

/-- Digits are read as the number that they denote, if it is not too large. -/
theorem referenceNumber_of_denotes (hradix : 0 < radix) (h : Denotes radix digits n)
    (hmax : n ≤ maxReference) : referenceNumber radix digits = .ok n := by
  have hread := referenceFrom_of_denotes hradix h hmax
  unfold referenceNumber
  split
  · exact absurd rfl h.ne_nil
  · exact absurd rfl (h.ne_of_mem List.mem_cons_self (d := '+') (by decide))
  · exact absurd rfl (h.ne_of_mem List.mem_cons_self (d := '-') (by decide))
  · exact hread

end

/-! ## 3. References -/

/-- A character is read from its number, in decimal or hexadecimal digits. -/
theorem referencedChar_of_denotes {digits : List Char} {c : Char} (hc : c ≠ '\x00') :
    (Denotes 10 digits c.toNat → referencedChar digits = .ok c) ∧
      (Denotes 16 digits c.toNat → referencedChar ('x' :: digits) = .ok c) := by
  have hmax : c.toNat ≤ maxReference := by
    have hvalid : c.toNat < 0xd800 ∨ 0xdfff < c.toNat ∧ c.toNat < 0x110000 := c.valid
    unfold maxReference
    omega
  have hzero : c.toNat ≠ 0 := by
    intro h
    apply hc
    rw [← Char.ofNat_toNat c, h]
  have hvalid : c.toNat.isValidChar := c.valid
  -- no decimal digit is an `x`, so the first branch is that of decimal numbers
  refine ⟨fun h => ?_, fun h => ?_⟩
  · have hx : ∀ rest, digits ≠ 'x' :: rest := by
      intro rest heq
      subst heq
      exact h.ne_of_mem List.mem_cons_self (d := 'x') (by decide) rfl
    unfold referencedChar
    split
    · exact absurd rfl (hx _)
    · rw [referenceNumber_of_denotes (by decide) h hmax]
      show (if c.toNat = 0 then _ else if c.toNat.isValidChar then _ else _) = _
      rw [if_neg hzero, if_pos hvalid, Char.ofNat_toNat]
  · show (referenceNumber 16 digits).bind _ = _
    rw [referenceNumber_of_denotes (by decide) h hmax]
    show (if c.toNat = 0 then _ else if c.toNat.isValidChar then _ else _) = _
    rw [if_neg hzero, if_pos hvalid, Char.ofNat_toNat]

theorem of_mem_predefined : ∀ entry ∈ predefined,
    entry.1.all isReferenceName = true ∧ entry.1.head? ≠ some '#' ∧
      namedChar? entry.1 = some entry.2 := by
  decide

/-- What a reference says, read behind its first character. -/
theorem expandFrom_reference {length : Nat} {name after : List Char} {c : Char}
    (hname : ∀ d ∈ name, isReferenceName d = true)
    (hread : (∃ number, name = '#' :: number ∧ referencedChar number = .ok c) ∨
      (∀ number, name ≠ '#' :: number) ∧ namedChar? name = some c) :
    expandFrom length ('&' :: (name ++ ';' :: after)) =
      (expandFrom length after).map (c :: ·) := by
  -- the name goes up to the semicolon
  have htake : (name ++ ';' :: after).takeWhile isReferenceName = name := by
    rw [List.takeWhile_append_of_pos hname, List.takeWhile_cons_of_neg (by decide),
      List.append_nil]
  have hdrop : (name ++ ';' :: after).dropWhile isReferenceName = ';' :: after := by
    rw [List.dropWhile_append_of_pos hname, List.dropWhile_cons_of_neg (by decide)]
  rw [expandFrom]
  split
  next behind hbehind =>
    rw [hdrop] at hbehind
    obtain rfl := (List.cons.inj hbehind).2
    rw [htake]
    rcases hread with ⟨number, rfl, hread⟩ | ⟨hnumber, hread⟩
    · simp only [hread]
      rfl
    · split
      · exact absurd rfl (hnumber _)
      · rw [hread]
        rfl
  next hne => exact absurd hdrop (hne _)

theorem expandFrom_plain {length : Nat} {c : Char} (hc : c ≠ '&') (rest : List Char) :
    expandFrom length (c :: rest) = (expandFrom length rest).map (c :: ·) := by
  rw [expandFrom]
  · rfl
  · simpa using hc

/-- A character is expanded to itself, however it is written. -/
theorem expandFrom_spellsChar {quote c : Char} {s : List Char} (h : SpellsChar quote c s)
    (length : Nat) (rest : List Char) :
    expandFrom length (s ++ rest) = (expandFrom length rest).map (c :: ·) := by
  -- as it is, by the name of an entity, or by its number in one of two bases
  cases h with
  | plain _ hamp => exact expandFrom_plain hamp rest
  | @named name _ h =>
      obtain ⟨hname, hnumber, hread⟩ := of_mem_predefined _ h
      rw [List.cons_append, List.append_assoc]
      refine expandFrom_reference (List.all_eq_true.mp hname) (.inr ⟨fun number heq => ?_, hread⟩)
      exact hnumber (by rw [heq]; rfl)
  | @decimal digits _ hc h =>
      have hname : ∀ d ∈ '#' :: digits, isReferenceName d = true :=
        List.forall_mem_cons.mpr ⟨by decide, h.all_isReferenceName⟩
      rw [List.cons_append, List.cons_append, List.append_assoc]
      exact expandFrom_reference hname (.inl ⟨_, rfl, (referencedChar_of_denotes hc).1 h⟩)
  | @hexadecimal digits _ hc h =>
      have hname : ∀ d ∈ '#' :: 'x' :: digits, isReferenceName d = true :=
        List.forall_mem_cons.mpr
          ⟨by decide, List.forall_mem_cons.mpr ⟨by decide, h.all_isReferenceName⟩⟩
      rw [List.cons_append, List.cons_append, List.cons_append, List.append_assoc]
      exact expandFrom_reference hname (.inl ⟨_, rfl, (referencedChar_of_denotes hc).2 h⟩)

/-- A written value is expanded to the text that it spells. -/
theorem expand_of_spells {quote : Char} {cs s : List Char} (h : Spells quote cs s) :
    expand s = .ok cs := by
  have hfrom (length : Nat) : expandFrom length s = .ok cs := by
    induction h with
    | nil => rw [expandFrom]
    | cons h _ ih => rw [expandFrom_spellsChar h, ih]; rfl
  exact hfrom _

/-- No way of writing a character shows the quote around it. -/
theorem quote_notMem_of_spellsChar {quote : Char} (hquote : quote = '"' ∨ quote = '\'') {c : Char}
    {s : List Char} (h : SpellsChar quote c s) : quote ∉ s := by
  -- a reference is made of an ampersand, a name or digits, and a semicolon
  have hmarks : quote ∉ ['&', '#', 'x', ';'] := by
    rcases hquote with rfl | rfl <;> decide
  have hnames : ∀ entry ∈ predefined, quote ∉ entry.1 := by
    rcases hquote with rfl | rfl <;> decide
  have hdigit : Text.hexValue? quote = none := by
    rcases hquote with rfl | rfl <;> decide
  simp only [List.mem_cons, List.not_mem_nil, or_false, not_or] at hmarks
  obtain ⟨hamp, hnumber, hx, hend⟩ := hmarks
  cases h with
  | plain _ _ hne => simpa using hne.symm
  | named h =>
      have hname := hnames _ h
      simp only [List.mem_cons, List.mem_append, List.not_mem_nil, or_false, not_or]
      exact ⟨hamp, hname, hend⟩
  | decimal _ h =>
      have hdigits : quote ∉ _ := fun hmem => h.ne_of_mem hmem hdigit rfl
      simp only [List.mem_cons, List.mem_append, List.not_mem_nil, or_false, not_or]
      exact ⟨hamp, hnumber, hdigits, hend⟩
  | hexadecimal _ h =>
      have hdigits : quote ∉ _ := fun hmem => h.ne_of_mem hmem hdigit rfl
      simp only [List.mem_cons, List.mem_append, List.not_mem_nil, or_false, not_or]
      exact ⟨hamp, hnumber, hx, hdigits, hend⟩

/-- The quotes of a value do not occur in it. -/
theorem quote_notMem_of_spells {quote : Char} (hquote : quote = '"' ∨ quote = '\'')
    {cs s : List Char} (h : Spells quote cs s) : quote ∉ s := by
  induction h with
  | nil => exact List.not_mem_nil
  | cons h _ ih =>
      intro hmem
      rcases List.mem_append.mp hmem with hmem | hmem
      · exact quote_notMem_of_spellsChar hquote h hmem
      · exact ih hmem

end ProcessLaunch.Markup
