import ProcessLaunch.Proofs.Json.Object

/-!
# Cut values

What a reader says to a text whose end is missing.  A string, a word or a member that is cut off is
found too short; a number that is cut off may be a number all the same, and then nothing is left of
the text for what has to come behind it.
-/

namespace ProcessLaunch.Json

open Reader Properties

/-! ## 1. Fronts of texts -/

/-- A text without its end, of which at least one character is missing. -/
def Front (front s : List Char) : Prop := ∃ back, back ≠ [] ∧ s = front ++ back

/-- A front of a text is a prefix other than the text itself. -/
theorem front_iff {front s : List Char} : Front front s ↔ front <+: s ∧ front ≠ s := by
  constructor
  · rintro ⟨back, hback, rfl⟩
    exact ⟨List.prefix_append _ _, by simpa using hback.symm⟩
  · rintro ⟨⟨back, rfl⟩, hne⟩
    refine ⟨back, ?_, rfl⟩
    rintro rfl
    exact hne (List.append_nil _).symm

theorem not_front_nil (front : List Char) : ¬Front front [] := by
  rintro ⟨back, hback, h⟩
  exact hback (List.append_eq_nil_iff.mp h.symm).2

/-- A front of two texts is cut in the first or in the second of them. -/
theorem front_append {front s t : List Char} (h : Front front (s ++ t)) :
    Front front s ∨ ∃ mid, Front mid t ∧ front = s ++ mid := by
  obtain ⟨back, hback, happend⟩ := h
  rcases List.append_eq_append_iff.mp happend with ⟨mid, rfl, ht⟩ | ⟨rest, rfl, rfl⟩
  · exact .inr ⟨mid, ⟨back, hback, ht⟩, rfl⟩
  · by_cases hrest : rest = []
    · subst hrest
      exact .inr ⟨[], ⟨t, hback, rfl⟩, by simp⟩
    · exact .inl ⟨rest, hrest, rfl⟩

/-- A front of a text is empty, or has the first character and a front of the others. -/
theorem front_cons {front t : List Char} {c : Char} (h : Front front (c :: t)) :
    front = [] ∨ ∃ mid, Front mid t ∧ front = c :: mid := by
  obtain ⟨back, hback, happend⟩ := h
  cases front with
  | nil => exact .inl rfl
  | cons d mid =>
      obtain ⟨rfl, rfl⟩ := List.cons.inj happend
      exact .inr ⟨mid, ⟨back, hback, rfl⟩, rfl⟩

theorem Front.mem {front s : List Char} (h : Front front s) {c : Char} (hc : c ∈ front) :
    c ∈ s := by
  obtain ⟨back, -, rfl⟩ := h
  exact List.mem_append_left _ hc

theorem Front.head? {front s : List Char} (h : Front front s) {c : Char} (hc : c ∈ front.head?) :
    c ∈ s.head? := by
  obtain ⟨back, -, rfl⟩ := h
  cases front with
  | nil => cases hc
  | cons d front => exact hc

theorem Unspaced.front {front s : List Char} (hs : Unspaced s) (h : Front front s) :
    Unspaced front := fun c hc => hs c (h.head? hc)

theorem Reader.Ended.front {front s : List Char} (hs : Ended s) (h : Front front s) : Ended front :=
  fun c hc => hs c (h.head? hc)

namespace Reader

variable {α β : Type}

/-! ## 2. One reader behind another -/

/-- Of nothing less than a whole text the reader makes anything. -/
def NeedsAll (r : Reader α) (s : List Char) : Prop :=
  ∀ front, Front front s → r.run front = .error .truncated

/-- What the reader makes of a front of a text, if anything, it makes of all of it. -/
def UsesUp (r : Reader α) (s : List Char) : Prop :=
  ∀ front, Front front s → r.run front = .error .truncated ∨ ∃ a, r.run front = .ok (a, [])

theorem NeedsAll.usesUp {r : Reader α} {s : List Char} (h : r.NeedsAll s) : r.UsesUp s :=
  fun front hfront => .inl (h front hfront)

theorem NeedsAll.map {r : Reader α} {s : List Char} (h : r.NeedsAll s) (f : α → β) :
    (f <$> r).NeedsAll s := by
  intro front hfront
  rw [run_map, h front hfront]

theorem UsesUp.map {r : Reader α} {s : List Char} (h : r.UsesUp s) (f : α → β) :
    (f <$> r).UsesUp s := by
  intro front hfront
  rcases h front hfront with hrun | ⟨a, hrun⟩
  · exact .inl (by rw [run_map, hrun])
  · exact .inr ⟨f a, by rw [run_map, hrun]⟩

section

variable {first : Reader α} {next : α → Reader β} {a : α} {s t : List Char}

/-- A cut falls into the first part, right behind it or into the second, and each time too little is
left. -/
theorem UsesUp.bind (hfirst : first.UsesUp s) (hend : ∀ a, (next a).run [] = .error .truncated)
    (hrun : ∀ mid, Front mid t → first.run (s ++ mid) = .ok (a, mid)) (hnext : (next a).UsesUp t) :
    (first >>= next).UsesUp (s ++ t) := by
  intro front hfront
  rcases front_append hfront with hfront | ⟨mid, hmid, rfl⟩
  · rcases hfirst front hfront with hshort | ⟨b, hall⟩
    · exact .inl (by rw [run_bind, hshort])
    · exact .inl (by rw [run_bind, hall]; exact hend b)
  · have hbehind : (first >>= next).run (s ++ mid) = (next a).run mid := by
      rw [run_bind, hrun mid hmid]
    rw [hbehind]
    exact hnext mid hmid

/-- A cut falls into the first part or into the second, and each part needs all of its text. -/
theorem NeedsAll.bind (hfirst : first.NeedsAll s)
    (hrun : ∀ mid, Front mid t → first.run (s ++ mid) = .ok (a, mid))
    (hnext : (next a).NeedsAll t) : (first >>= next).NeedsAll (s ++ t) := by
  intro front hfront
  rcases front_append hfront with hfront | ⟨mid, hmid, rfl⟩
  · rw [run_bind, hfirst front hfront]
  · rw [run_bind, hrun mid hmid]
    exact hnext mid hmid

end

theorem needsAll_expect (c : Char) : (expect c).NeedsAll [c] := by
  intro front hfront
  rcases front_cons hfront with rfl | ⟨mid, hmid, -⟩
  · rfl
  · exact absurd hmid (not_front_nil mid)

theorem needsAll_word (w : List Char) : (word w).NeedsAll w := by
  induction w with
  | nil => exact fun front hfront => absurd hfront (not_front_nil front)
  | cons c w ih =>
      have hexpect (mid : List Char) (_ : Front mid w) :
          (expect c).run ([c] ++ mid) = .ok ((), mid) := run_expect_eq_ok.mpr rfl
      exact (needsAll_expect c).bind hexpect ih

/-- The space in front of a text is taken, wherever the text is cut. -/
theorem run_spaces_of_front {b s front : List Char} (hb : Spaces b) (hs : Unspaced s) (hne : s ≠ [])
    (h : Front front (b ++ s)) : ∃ mid, Front mid s ∧ spaces.run front = .ok ((), mid) := by
  rcases front_append h with hfront | ⟨mid, hmid, rfl⟩
  · have hspaces : Spaces front := fun c hc => hb c (hfront.mem hc)
    refine ⟨[], ⟨s, hne, rfl⟩, run_spaces_eq_ok.mpr ⟨front, hspaces, nofun, ?_⟩⟩
    rw [List.append_nil]
  · exact ⟨mid, hmid, run_spaces_eq_ok.mpr ⟨b, hb, hs.front hmid, rfl⟩⟩

section

variable {r : Reader α} {b s : List Char}

theorem NeedsAll.spaced (h : r.NeedsAll s) (hb : Spaces b) (hs : Unspaced s) (hne : s ≠ []) :
    (do spaces; r).NeedsAll (b ++ s) := by
  intro front hfront
  obtain ⟨mid, hmid, hspaces⟩ := run_spaces_of_front hb hs hne hfront
  rw [run_bind, hspaces]
  exact h mid hmid

theorem UsesUp.spaced (h : r.UsesUp s) (hb : Spaces b) (hs : Unspaced s) (hne : s ≠ []) :
    (do spaces; r).UsesUp (b ++ s) := by
  intro front hfront
  obtain ⟨mid, hmid, hspaces⟩ := run_spaces_of_front hb hs hne hfront
  have hbehind : (do spaces; r).run front = r.run mid := by rw [run_bind, hspaces]
  rw [hbehind]
  exact h mid hmid

end

end Reader

/-! ## 3. Strings -/

/-- Digits are of one byte each, so less than four of them are too short for a unit. -/
theorem needsAll_unit {n : Nat} {t : List Char} (h : SpellsUnit n ('\\' :: 'u' :: t)) :
    unit.NeedsAll t := by
  intro front hfront
  obtain ⟨w, x, y, z, hs, hunit⟩ := spellsUnit_iff.mp h
  obtain rfl : t = [w, x, y, z] := by simpa using hs
  simp only [Text.hexUnit?, Option.bind_eq_bind, Option.bind_eq_some_iff] at hunit
  obtain ⟨_, hw, _, hx, _, hy, -⟩ := hunit
  have hsizes := And.intro (Text.utf8Size_of_hexValue? hw)
    (And.intro (Text.utf8Size_of_hexValue? hx) (Text.utf8Size_of_hexValue? hy))
  -- fewer than four digits are left, whichever of them the cut falls behind
  rcases front_cons hfront with rfl | ⟨_, h₁, rfl⟩
  · rfl
  rcases front_cons h₁ with rfl | ⟨_, h₂, rfl⟩
  · simp [unit, Text.byteLength, hsizes]
  rcases front_cons h₂ with rfl | ⟨_, h₃, rfl⟩
  · simp [unit, Text.byteLength, hsizes]
  rcases front_cons h₃ with rfl | ⟨_, h₄, rfl⟩
  · simp [unit, Text.byteLength, hsizes]
  · exact absurd h₄ (not_front_nil _)

theorem needsAll_unicode {c : Char} {t : List Char} (h : PairedUnits c t) :
    unicode.NeedsAll t := by
  obtain ⟨n, hn, -⟩ | ⟨high, low, t₁, t₂, rfl, hhigh, hlow, hishigh, -⟩ := pairedUnits_iff.mp h
  · intro front hfront
    rw [unicode, run_bind, needsAll_unit hn front hfront]
  · -- behind the first half of a pair the second one has to come
    have hexpect (c : Char) (mid : List Char) : (expect c).run ([c] ++ mid) = .ok ((), mid) :=
      run_expect_eq_ok.mpr rfl
    refine (needsAll_unit hhigh).bind (fun mid _ => takes_unit.run_append hhigh mid) ?_
    rw [isLowSurrogate_of_isHighSurrogate hishigh, hishigh]
    refine (needsAll_expect '\\').bind (fun mid _ => hexpect '\\' mid) ?_
    refine (needsAll_expect 'u').bind (fun mid _ => hexpect 'u' mid) ?_
    intro front hfront
    rw [run_bind, needsAll_unit hlow front hfront]

section

variable {reader : Reader Char} {writesUnits : Char → List Char → Prop}

theorem needsAll_escape (hcut : ∀ {c t}, writesUnits c t → reader.NeedsAll t) {c : Char}
    {t : List Char} (h : SpellsChar writesUnits c ('\\' :: t)) : (escape reader).NeedsAll t := by
  intro front hfront
  cases h with
  | plain _ hbackslash => exact absurd rfl hbackslash
  | short =>
      rcases front_cons hfront with rfl | ⟨mid, hmid, -⟩
      · rfl
      · exact absurd hmid (not_front_nil mid)
  | units hunits =>
      rcases front_cons hfront with rfl | ⟨mid, hmid, rfl⟩
      · rfl
      · exact hcut hunits mid hmid

/-- A character that is cut off is found too short, however it is written. -/
theorem needsAll_character? (hcut : ∀ {c t}, writesUnits c t → reader.NeedsAll t) {c : Char}
    {s : List Char} (h : SpellsChar writesUnits c s) : (character? reader).NeedsAll s := by
  intro front hfront
  have hescape {t : List Char} (ht : SpellsChar writesUnits c ('\\' :: t)) (mid : List Char)
      (hmid : Front mid t) : (character? reader).run ('\\' :: mid) = .error .truncated :=
    ((needsAll_escape hcut ht).map some) mid hmid
  -- a plain character cannot be cut, and an escape only behind its backslash
  cases h with
  | plain =>
      rcases front_cons hfront with rfl | ⟨mid, hmid, -⟩
      · rfl
      · exact absurd hmid (not_front_nil mid)
  | short h =>
      rcases front_cons hfront with rfl | ⟨mid, hmid, rfl⟩
      · rfl
      · exact hescape (.short h) mid hmid
  | units h =>
      rcases front_cons hfront with rfl | ⟨mid, hmid, rfl⟩
      · rfl
      · exact hescape (.units h) mid hmid

theorem takeCharacters_of_error {s : List Char} {e : Error}
    (h : (character? reader).run s = .error e) : takeCharacters reader s = .error e := by
  rw [takeCharacters]
  split <;> simp_all

theorem takeCharacters_of_some {s more : List Char} {c : Char}
    (h : (character? reader).run s = .ok (some c, more)) :
    takeCharacters reader s =
      (takeCharacters reader more).map fun (cs, rest) => (c :: cs, rest) := by
  rw [takeCharacters]
  split <;> simp_all

/-- The closing quote is missed wherever a text is cut. -/
theorem needsAll_characters (hunits : reader.Takes writesUnits)
    (hcut : ∀ {c t}, writesUnits c t → reader.NeedsAll t) {cs t : List Char}
    (h : SpellsText writesUnits cs t) : (characters reader).NeedsAll (t ++ ['"']) := by
  show ∀ front, Front front (t ++ ['"']) → takeCharacters reader front = .error .truncated
  induction h with
  | nil =>
      intro front hfront
      rcases front_cons hfront with rfl | ⟨mid, hmid, -⟩
      · exact takeCharacters_of_error rfl
      · exact absurd hmid (not_front_nil mid)
  | @cons c cs s t hc _ ih =>
      intro front hfront
      rw [List.append_assoc] at hfront
      -- the cut falls into the first character or behind it
      rcases front_append hfront with hfront | ⟨mid, hmid, rfl⟩
      · exact takeCharacters_of_error (needsAll_character? hcut hc front hfront)
      · have hnext := (takes_character? hunits).run_append (a := some c) hc mid
        rw [takeCharacters_of_some hnext, ih mid hmid]
        rfl

end

theorem needsAll_stringBody {text : String} {t : List Char}
    (h : SpellsText PairedUnits text.toList t) : stringBody.NeedsAll (t ++ ['"']) :=
  (needsAll_characters takes_unicode needsAll_unicode h).map String.ofList

/-! ## 4. Values -/

def ValueReader.UsesUp {α : Type} (value : ValueReader α) (v : List Char) : Prop :=
  (do value (← next) : Reader α).UsesUp v

namespace ValueReader

variable {α β : Type} {value : ValueReader α}

theorem UsesUp.map {v : List Char} (h : value.UsesUp v) (f : α → β) : (value.map f).UsesUp v := by
  intro front hfront
  have hmap : (do value.map f (← next)).run front = (f <$> do value (← next)).run front := by
    cases front <;> rfl
  rw [hmap]
  exact Reader.UsesUp.map h f front hfront

end ValueReader

theorem usesUp_string {text : String} {s : List Char} (h : WritesString text s) :
    ValueReader.UsesUp string s := by
  obtain ⟨t, ht, rfl⟩ := h
  intro front hfront
  rcases front_cons hfront with rfl | ⟨mid, hmid, rfl⟩
  · exact .inl rfl
  · exact .inl (needsAll_stringBody ht mid hmid)

/-- Digits without their end are those of a smaller number. -/
theorem exists_toDigits_of_front {front : List Char} {n : Nat} (hne : front ≠ [])
    (h : Front front (Nat.toDigits 10 n)) : ∃ k, 0 < k ∧ k ≤ n ∧ front = Nat.toDigits 10 k := by
  obtain ⟨c, t, rfl⟩ := List.exists_cons_of_ne_nil hne
  obtain ⟨back, hback, hn⟩ := h
  have hdigits : Whole (c :: t ++ back) := hn ▸ whole_toDigits n
  -- a leading zero would be all of the number, so nothing could be missing
  have hc : c ≠ '0' := by
    rintro rfl
    have hone := hdigits.2 rfl
    simp only [List.cons_append, List.cons.injEq, true_and, List.append_eq_nil_iff] at hone
    exact hback hone.2
  have hwhole : Whole (c :: t) :=
    ⟨⟨hne, fun d hd => hdigits.1.2 d (List.mem_append_left _ hd)⟩,
      fun hhead => absurd (Option.some.inj hhead) hc⟩
  refine ⟨valueFrom 0 (c :: t), valueFrom_pos hwhole hc, ?_, (toDigits_valueFrom hwhole).symm⟩
  have hvalue : valueFrom (valueFrom 0 (c :: t)) back = n := by
    rw [← valueFrom_toDigits n, hn]
    exact List.foldl_append.symm
  exact hvalue ▸ le_valueFrom _ back

/-- What is left of an integer is nothing, its sign or an integer nearer to zero. -/
theorem exists_toString_of_front {front : List Char} {n : Int}
    (h : Front front (toString n).toList) :
    front = [] ∨ front = ['-'] ∨
      ∃ j : Int, front = (toString j).toList ∧ (0 ≤ j ∧ j ≤ n ∨ n ≤ j ∧ j ≤ 0) := by
  by_cases hnil : front = []
  · exact .inl hnil
  -- behind a minus the digits are cut as those of a natural number
  by_cases hn : 0 ≤ n
  · obtain ⟨m, rfl⟩ := Int.eq_ofNat_of_zero_le hn
    rw [toList_toString_natCast] at h
    obtain ⟨k, -, hle, rfl⟩ := exists_toDigits_of_front hnil h
    exact .inr (.inr ⟨k, (toList_toString_natCast k).symm, .inl ⟨by omega, by omega⟩⟩)
  · obtain ⟨m, rfl⟩ : ∃ m : Nat, n = -(m : Int) := ⟨n.natAbs, by omega⟩
    rw [toList_toString_neg (by omega)] at h
    rcases front_cons h with rfl | ⟨mid, hmid, rfl⟩
    · exact absurd rfl hnil
    by_cases hmidnil : mid = []
    · exact .inr (.inl (by rw [hmidnil]))
    · obtain ⟨k, hpos, hle, rfl⟩ := exists_toDigits_of_front hmidnil hmid
      exact .inr (.inr ⟨-k, (toList_toString_neg hpos).symm, .inr ⟨by omega, by omega⟩⟩)

/-- An integer that is cut off is found too short or is another integer, of which the text is used
up. -/
theorem usesUp_integerBetween {least greatest n : Int} {s : List Char}
    (hleast : -(Number.maxNegative : Int) ≤ least) (hgreatest : greatest ≤ Number.maxNatural)
    (hlow : least ≤ 0) (hhigh : 0 ≤ greatest) (expected : String)
    (h : WritesInteger least greatest n s) : (integerBetween least greatest expected).UsesUp s := by
  obtain ⟨hleastn, hngreatest, rfl⟩ := h
  intro front hfront
  obtain rfl | rfl | ⟨j, rfl, hj⟩ := exists_toString_of_front hfront
  · exact .inl rfl
  · exact .inl rfl
  · have hwrites : WritesInteger least greatest j (toString j).toList :=
      ⟨by omega, by omega, rfl⟩
    have hreads := reads_integerBetween least greatest hleast hgreatest expected
    have hrun := hreads.reads.complete hwrites ended_nil
    rw [List.append_nil] at hrun
    exact .inr ⟨j, hrun⟩

theorem usesUp_integer64 {n : Int64} {s : List Char} (h : WritesInteger64 n s) :
    ValueReader.UsesUp integer64 s :=
  (usesUp_integerBetween (by decide) (by decide) (by decide) (by decide) "i64"
    ⟨Int64.minValue_le_toInt n, Int64.toInt_le n, h⟩).map Int64.ofInt

/-- Null that is cut off is found too short; a value that is cut off is so by its own reader. -/
theorem usesUp_optional {α : Type} {value : ValueReader α} {writes : α → List Char → Prop}
    (hnull : ∀ {a t}, writes a t → t.head? ≠ some 'n')
    (hcut : ∀ {a t}, writes a t → value.UsesUp t) {a : Option α} {s : List Char}
    (h : WritesOptional writes a s) : (optional value).UsesUp s := by
  intro front hfront
  cases a with
  | none =>
      obtain rfl : s = 'n' :: "ull".toList := h
      rcases front_cons hfront with rfl | ⟨mid, hmid, rfl⟩
      · exact .inl rfl
      · exact .inl ((needsAll_word "ull".toList).map (fun _ => none) mid hmid)
  | some a =>
      cases front with
      | nil => exact .inl rfl
      | cons c front =>
          -- the first character of a value is not that of null, and tells the two apart
          have hc : c ≠ 'n' := fun hc => hnull h (hc ▸ hfront.head? rfl)
          have hvalue := (hcut h : Reader.UsesUp _ s).map some (c :: front) hfront
          have hrun : (do optional value (← next)).run (c :: front) =
              (some <$> do value (← next)).run (c :: front) := by
            show (optional value c).run front = (some <$> value c).run front
            rw [optional, if_neg hc]
          rw [hrun]
          exact hvalue

/-! ## 5. Members -/

section

variable {φ : Type}

def Member.UsesUp (m : Member φ) (fields : φ) (v : List Char) : Prop :=
  ∀ a c, Spaces a → Spaces c → (m.reader fields).UsesUp (a ++ ':' :: (c ++ v))

/-- A member whose value is cut off is as short as that value. -/
theorem Member.usesUp_read {value : ValueReader φ} {v : List Char} (h : value.UsesUp v)
    (hv : Begun v) (fields : φ) : (Member.read value).UsesUp fields v := by
  intro a c ha hc
  have hcolon : colon.NeedsAll (a ++ [':']) :=
    (needsAll_expect ':').spaced ha (unspaced_cons (by decide)) (List.cons_ne_nil _ _)
  have hbehind (mid : List Char) (_ : Front mid (c ++ v)) :
      colon.run (a ++ [':'] ++ mid) = .ok ((), mid) := run_colon_eq_ok.mpr ⟨a, ha, by simp⟩
  have hspaced : value.spaced.UsesUp (c ++ v) := UsesUp.spaced h hc hv.unspaced hv.ne_nil
  have hmember : (do colon; value.spaced).UsesUp (a ++ [':'] ++ (c ++ v)) :=
    hcolon.usesUp.bind (fun _ => rfl) hbehind hspaced
  rwa [List.append_assoc, List.singleton_append] at hmember

/-- A key that is cut off, or the comma in front of it, is found too short. -/
theorem needsAll_key? {first : Bool} {key : String} {b k : List Char} (hb : Lead first b)
    (hk : WritesString key k) : (key? first).NeedsAll (b ++ k) := by
  obtain ⟨t, ht, rfl⟩ := hk
  have hbody : ((some : String → _) <$> stringBody).NeedsAll (t ++ ['"']) :=
    (needsAll_stringBody ht).map some
  -- the first key comes behind space only, the others behind a comma
  cases first with
  | true =>
      refine NeedsAll.spaced ?_ hb (unspaced_cons (by decide)) (List.cons_ne_nil _ _)
      intro front hfront
      rcases front_cons hfront with rfl | ⟨mid, hmid, rfl⟩
      · rfl
      · exact hbody mid hmid
  | false =>
      obtain ⟨b, d, hb, hd, rfl⟩ := hb
      have hquote (mid : List Char) (_ : Front mid (t ++ ['"'])) :
          (expect '"').run (['"'] ++ mid) = .ok ((), mid) := run_expect_eq_ok.mpr rfl
      have hquoted : (do expect '"'; some <$> stringBody : Reader (Option String)).NeedsAll
          ('"' :: (t ++ ['"'])) := (needsAll_expect '"').bind hquote hbody
      have hbehind := hquoted.spaced hd (unspaced_cons (by decide)) (List.cons_ne_nil _ _)
      rw [List.append_assoc]
      refine NeedsAll.spaced ?_ hb (unspaced_cons (by decide)) (List.cons_ne_nil _ _)
      intro front hfront
      rcases front_cons hfront with rfl | ⟨mid, hmid, rfl⟩
      · rfl
      · exact hbehind mid hmid

variable {member : φ → String → Member φ} {adds : φ → String × List Char → φ → Prop}

theorem takeMembers_of_error {first : Bool} {fields : φ} {s : List Char} {e : Error}
    (h : (memberStep member first fields).run s = .error e) :
    takeMembers member first fields s = .error e := by
  rw [takeMembers]
  split <;> simp_all

theorem takeMembers_nil (first : Bool) (fields : φ) :
    takeMembers member first fields [] = .error .truncated := takeMembers_of_error rfl

/-- A member that is cut off is the last thing that is read. -/
theorem takeMembers_of_cut_member {first : Bool} {fields : φ} {m : String × List Char}
    {b s front : List Char} (hcut : (member fields m.1).UsesUp fields m.2) (hb : Lead first b)
    (hm : WritesMember m s) (h : Front front (b ++ s)) :
    takeMembers member first fields front = .error .truncated := by
  obtain ⟨k, a, c, hk, ha, hc, -, rfl⟩ := hm
  have hkey := needsAll_key? hb hk
  rw [List.append_assoc, ← List.append_assoc] at h
  rcases front_append h with hfront | ⟨mid, hmid, rfl⟩
  · refine takeMembers_of_error ?_
    rw [memberStep, run_bind, hkey front hfront]
  · have hrun : (key? first).run (b ++ k ++ mid) = .ok (some m.1, mid) :=
      (takes_key? first).run_append (a := some m.1) ⟨b, k, hb, hk, rfl⟩ mid
    have hstep : (memberStep member first fields).run (b ++ k ++ mid) =
        (some <$> (member fields m.1).reader fields).run mid := by
      rw [memberStep, run_bind, hrun]
    -- the key is there; the value is too short, or is one of which the text is used up
    rcases hcut a c ha hc mid hmid with hshort | ⟨between, hall⟩
    · refine takeMembers_of_error ?_
      rw [hstep, run_map, hshort]
    · have hsome : (memberStep member first fields).run (b ++ k ++ mid) =
          .ok (some between, []) := by
        rw [hstep, run_map, hall]
      rw [takeMembers_of_some hsome, takeMembers_nil]

/-- An object whose values can be cut without harm is found too short wherever it is cut. -/
theorem takeMembers_of_front
    (hreads : ∀ fields key, (member fields key).Reads fields fun v => adds fields (key, v))
    (hvalue : ∀ {fields m behind}, adds fields m behind → Writes .value m.2) {first : Bool}
    {fields behind : φ} {ms : List (String × List Char)} {t front : List Char}
    (hcut : ∀ m ∈ ms, ∀ {fields behind}, adds fields m behind →
      (member fields m.1).UsesUp fields m.2)
    (h : Listed .object WritesMember first ms t) (hadds : AddsAll adds fields ms behind)
    (hfront : Front front t) : takeMembers member first fields front = .error .truncated := by
  induction h generalizing fields front with
  | @closed first b hb =>
      obtain ⟨mid, hmid, hspaces⟩ := run_spaces_of_front hb
        (unspaced_cons (isSpace_close .object)) (List.cons_ne_nil _ _) hfront
      -- in front of the brace only space is left
      have hnil : mid = [] := by
        rcases front_cons hmid with hnil | ⟨_, hmore, -⟩
        · exact hnil
        · exact absurd hmore (not_front_nil _)
      refine takeMembers_of_error ?_
      rw [memberStep, key?, run_bind, run_bind, hspaces, hnil]
      rfl
  | @item first m ms b s t hb hm ht ih =>
      cases hadds with
      | @cons _ between _ _ _ hadd hall =>
          rcases front_append hfront with hmember | ⟨mid, hmid, rfl⟩
          · exact takeMembers_of_cut_member (hcut m List.mem_cons_self hadd) hb hm hmember
          · -- the member stands there whole, and the text is cut behind it
            have hended : Ended mid := by
              have hwhole := ht.ended []
              rw [List.append_nil] at hwhole
              exact hwhole.front hmid
            have hrun := (reads_memberStep hreads @hvalue first fields).complete
              (a := some between) ⟨m, b, s, hb, hm, hadd, rfl⟩ hended
            rw [takeMembers_of_some hrun]
            exact ih (fun m hm => hcut m (List.mem_cons_of_mem _ hm)) hall hmid

end

end ProcessLaunch.Json
