import ProcessLaunch.Proofs.Http.Percent
import ProcessLaunch.Proofs.Properties.Round

/-!
# Looking ahead in bytes

Behind a backslash and a `u` the next bytes are looked at, and a text can only be cut between two
characters.  Here unescaping is written with such cuts and with a cursor that is moved or left where
it is, in the way of a program that works on UTF-8.  No cut of it fails, and it gives the same text
as `unescape`.
-/

namespace ProcessLaunch.Properties

open Text
open Http (utf8 utf8_cons)

def upToByte? : Nat → List Char → Option (List Char)
  | 0, _ => some []
  | _ + 1, [] => none
  | n + 1, c :: s =>
      if c.utf8Size ≤ n + 1 then (upToByte? (n + 1 - c.utf8Size) s).map (c :: ·) else none

def isHexByte (b : UInt8) : Bool :=
  let n := b.toNat
  (0x30 ≤ n && n ≤ 0x39) || (0x41 ≤ n && n ≤ 0x46) || (0x61 ≤ n && n ≤ 0x66)

/-- Digits in base sixteen, read on from a value.  The number has to fit in 16 bits. -/
def radix16From? : Nat → List Char → Option Nat
  | value, [] => some value
  | value, c :: rest =>
      match hexValue? c with
      | none => none
      | some digit =>
          if value * 16 + digit < 65536 then radix16From? (value * 16 + digit) rest else none

def radix16? : List Char → Option Nat
  | [] => none
  | ['+'] => none
  | '+' :: digits => radix16From? 0 digits
  | digits => radix16From? 0 digits

def takeUnit (cursor : List Char) : Option Nat × List Char :=
  match upToByte? 4 cursor with
  | none => (none, cursor)
  | some digits =>
      if (utf8 digits).all isHexByte then
        match radix16? digits with
        | none => (none, cursor)
        -- what was looked at by bytes is passed over by characters
        | some unit => (some unit, cursor.drop 4)
      else (none, cursor)

/-- Takes an escaped low surrogate off a cursor, by way of another cursor that is further on. -/
def takeLowSurrogate (cursor : List Char) : Option Nat × List Char :=
  match cursor with
  | '\\' :: 'u' :: ahead =>
      match takeUnit ahead with
      | (none, _) => (none, cursor)
      | (some unit, ahead) => if isLowSurrogate unit then (some unit, ahead) else (none, cursor)
  | _ => (none, cursor)

def firstCharacter? : List Nat → Option Char
  | [] => none
  | unit :: more =>
      if isHighSurrogate unit then
        match more with
        | [] => none
        | low :: _ => if isLowSurrogate low then some (surrogatePair unit low) else none
      else if isLowSurrogate unit then none
      else some (Char.ofNat unit)

/-- What is put out for an escape, and where the cursor is behind it.  It comes in behind the `u`.
There is no result if the text is cut inside a character or beyond its end. -/
def takeEscape (escape : List Char) : Option (List Char × List Char) :=
  match takeUnit escape with
  | (none, cursor) => some (['\\', 'u'], cursor)
  | (some unit, cursor) =>
      let (low, cursor) :=
        if isHighSurrogate unit then takeLowSurrogate cursor else (none, cursor)
      match firstCharacter? (unit :: low.toList) with
      | some c => some ([c], cursor)
      | none => (upToByte? 4 escape).map fun front => ('\\' :: 'u' :: front, cursor)

def takeRound : List Char → Option (List Char × List Char)
  | [] => some ([], [])
  | ['\\'] => some ([], [])
  | '\\' :: 'u' :: escape => takeEscape escape
  | '\\' :: c :: rest => some ([escaped c], rest)
  | c :: rest => some ([c], rest)

def onCursor (read? : List Char → Option (Nat × List Char)) (cursor : List Char) :
    Option Nat × List Char :=
  match read? cursor with
  | none => (none, cursor)
  | some (unit, rest) => (some unit, rest)

/-- A reader takes a whole spelling of a number off its cursor, or leaves the cursor where it is. -/
structure TakesWhole (read : List Char → Option Nat × List Char)
    (Spells : Nat → List Char → Prop) (width : Nat) : Prop where
  taken : ∀ cursor unit rest,
    read cursor = (some unit, rest) ↔ ∃ front, Spells unit front ∧ cursor = front ++ rest
  kept : ∀ cursor, (read cursor).1 = none → (read cursor).2 = cursor
  size : ∀ unit front, Spells unit front → front.length = width ∧ byteLength front = width
  value : ∀ unit front, Spells unit front → unit < 65536

/-! ## 1. Cutting -/

theorem eq_nil_of_byteLength {s : List Char} (h : byteLength s = 0) : s = [] := by
  cases s with
  | nil => rfl
  | cons c s =>
      rw [byteLength_cons] at h
      have hpos := c.utf8Size_pos
      omega

/-- A number of bytes can be cut off exactly if some front of the text has that many. -/
theorem upToByte?_eq_some_iff {n : Nat} {s front : List Char} :
    upToByte? n s = some front ↔ front <+: s ∧ byteLength front = n := by
  fun_induction upToByte? n s generalizing front with
  | case1 s =>
      constructor
      · intro h
        rw [← Option.some.inj h]
        exact ⟨List.nil_prefix, rfl⟩
      · rintro ⟨-, hlength⟩
        rw [eq_nil_of_byteLength hlength]
  | case2 n =>
      refine iff_of_false (fun h => by cases h) ?_
      rintro ⟨hfront, hlength⟩
      rw [List.prefix_nil.mp hfront] at hlength
      cases hlength
  | case3 n c s hle ih =>
      rw [Option.map_eq_some_iff]
      constructor
      · rintro ⟨tail, htail, rfl⟩
        obtain ⟨hfront, hlength⟩ := ih.mp htail
        refine ⟨(List.prefix_cons_inj c).mpr hfront, ?_⟩
        rw [byteLength_cons, hlength]
        omega
      · rintro ⟨hfront, hlength⟩
        cases front with
        | nil => cases hlength
        | cons d tail =>
            obtain ⟨rfl, htail⟩ := List.cons_prefix_cons.mp hfront
            rw [byteLength_cons] at hlength
            have hrest : byteLength tail = n + 1 - d.utf8Size := by omega
            exact ⟨tail, ih.mpr ⟨htail, hrest⟩, rfl⟩
  | case4 n c s hlong =>
      refine iff_of_false (fun h => by cases h) ?_
      rintro ⟨hfront, hlength⟩
      cases front with
      | nil => cases hlength
      | cons d tail =>
          -- a front that begins with a longer character has too many bytes
          obtain ⟨rfl, -⟩ := List.cons_prefix_cons.mp hfront
          rw [byteLength_cons] at hlength
          omega

theorem utf8ByteSize_ofList (s : List Char) : (String.ofList s).utf8ByteSize = byteLength s := by
  induction s with
  | nil => rfl
  | cons c s ih =>
      rw [String.ofList_cons, String.utf8ByteSize_append, String.utf8ByteSize_singleton, ih,
        byteLength_cons]

/-- A text can be cut at the places between its characters, and nowhere else. -/
theorem isValid_iff {s : List Char} {n : Nat} :
    String.Pos.Raw.IsValid (String.ofList s) ⟨n⟩ ↔ ∃ front, upToByte? n s = some front := by
  rw [String.Pos.Raw.isValid_iff_exists_append]
  constructor
  · rintro ⟨front, back, hs, hn⟩
    have hs' : s = front.toList ++ back.toList := by
      rw [← String.toList_append, ← hs, String.toList_ofList]
    refine ⟨front.toList, upToByte?_eq_some_iff.mpr ⟨⟨back.toList, hs'.symm⟩, ?_⟩⟩
    rw [← utf8ByteSize_ofList, String.ofList_toList]
    exact (congrArg String.Pos.Raw.byteIdx hn).symm
  · rintro ⟨front, hfront⟩
    obtain ⟨⟨back, rfl⟩, rfl⟩ := upToByte?_eq_some_iff.mp hfront
    refine ⟨String.ofList front, String.ofList back, String.ofList_append, ?_⟩
    rw [String.rawEndPos, utf8ByteSize_ofList]

/-! ## 2. Digits -/

/-- The bytes of a character are those of hexadecimal digits exactly if it is such a digit. -/
theorem all_isHexByte_utf8EncodeChar (c : Char) :
    (String.utf8EncodeChar c).all isHexByte = (hexValue? c).isSome := by
  by_cases hascii : c.toNat < 128
  · have hall : ∀ n < 128, (String.utf8EncodeChar (Char.ofNat n)).all isHexByte =
        (hexValue? (Char.ofNat n)).isSome := by decide
    have hc := hall c.toNat hascii
    rwa [Char.ofNat_toNat] at hc
  -- a character of more bytes than one is no digit, and its first byte is none
  · have hnone : hexValue? c = none := by
      rw [hexValue?, if_neg (by omega), if_neg (by omega), if_neg (by omega)]
    have hfirst {n : Nat} (h : 128 ≤ n) (hn : n < 256) : isHexByte (UInt8.ofNat n) = false := by
      have hbyte : (UInt8.ofNat n).toNat = n := Nat.mod_eq_of_lt hn
      simp only [isHexByte, hbyte, Bool.or_eq_false_iff, Bool.and_eq_false_iff,
        decide_eq_false_iff_not]
      omega
    have hval : ¬c.val.toNat ≤ 127 := by
      show ¬c.toNat ≤ 127
      omega
    rw [hnone, String.utf8EncodeChar, if_neg hval]
    -- there are two, three or four bytes
    split_ifs
    all_goals
      rw [List.all_cons, hfirst (by omega) (by omega)]
      rfl

/-- The check on bytes is one on characters. -/
theorem all_isHexByte_iff {s : List Char} :
    (utf8 s).all isHexByte = true ↔ ∀ c ∈ s, (hexValue? c).isSome = true := by
  induction s with
  | nil => simp [utf8]
  | cons c s ih =>
      rw [utf8_cons, List.all_append, Bool.and_eq_true, all_isHexByte_utf8EncodeChar, ih,
        List.forall_mem_cons]

/-- A digit is one byte. -/
theorem byteLength_of_digits {s : List Char} (h : ∀ c ∈ s, (hexValue? c).isSome = true) :
    byteLength s = s.length := by
  induction s with
  | nil => rfl
  | cons c s ih =>
      obtain ⟨hc, hs⟩ := List.forall_mem_cons.mp h
      obtain ⟨digit, hdigit⟩ := Option.isSome_iff_exists.mp hc
      rw [byteLength_cons, utf8Size_of_hexValue? hdigit, ih hs, List.length_cons, Nat.add_comm]

theorem isSome_hexValue?_iff {c : Char} :
    (hexValue? c).isSome = true ↔ ∃ digit, ShowsDigit digit c := by
  constructor
  · intro h
    obtain ⟨digit, hdigit⟩ := Option.isSome_iff_exists.mp h
    exact ⟨digit, showsDigit_of_hexValue? hdigit⟩
  · rintro ⟨digit, hdigit⟩
    rw [hexValue?_of_showsDigit hdigit]
    rfl

theorem radix16?_of_hexUnit? {w x y z : Char} {unit : Nat} (h : hexUnit? w x y z = some unit) :
    radix16? [w, x, y, z] = some unit := by
  have hlt := hexUnit?_lt h
  simp only [hexUnit?, Option.bind_eq_bind, Option.bind_eq_some_iff, Option.pure_def,
    Option.some.injEq] at h
  obtain ⟨a, ha, b, hb, c, hc, d, hd, rfl⟩ := h
  have hplus : w ≠ '+' := by
    rintro rfl
    cases ha
  rw [radix16?]
  -- no number on the way is too large, since the last one is not
  · simp only [radix16From?, ha, hb, hc, hd]
    rw [if_pos (by omega), if_pos (by omega), if_pos (by omega), if_pos (by omega)]
    simp
  · simp
  · simp
  · intro digits heq
    exact absurd (List.cons.inj heq).1 hplus

theorem digits_of_spellsUnit {unit : Nat} {digits : List Char}
    (h : SpellsUnit unit ('\\' :: 'u' :: digits)) :
    digits.length = 4 ∧ (∀ c ∈ digits, (hexValue? c).isSome = true) ∧
      radix16? digits = some unit := by
  obtain ⟨w, x, y, z, hspelling, hunit⟩ := hexUnit?_of_spellsUnit h
  obtain rfl : digits = [w, x, y, z] := by simpa using hspelling
  have hradix := radix16?_of_hexUnit? hunit
  simp only [hexUnit?, Option.bind_eq_bind, Option.bind_eq_some_iff] at hunit
  obtain ⟨a, ha, b, hb, c, hc, d, hd, -⟩ := hunit
  exact ⟨rfl, by simp [ha, hb, hc, hd], hradix⟩

theorem exists_spellsUnit {digits : List Char} (hlength : digits.length = 4)
    (h : ∀ c ∈ digits, (hexValue? c).isSome = true) :
    ∃ unit, SpellsUnit unit ('\\' :: 'u' :: digits) := by
  match digits with
  | [w, x, y, z] =>
      simp only [List.forall_mem_cons, Option.isSome_iff_exists] at h
      obtain ⟨⟨a, ha⟩, ⟨b, hb⟩, ⟨c, hc⟩, ⟨d, hd⟩, -⟩ := h
      refine ⟨((a * 16 + b) * 16 + c) * 16 + d, spellsUnit_iff.mpr ⟨w, x, y, z, rfl, ?_⟩⟩
      simp [hexUnit?, ha, hb, hc, hd]

/-! ## 3. The two readers -/

/-- A unit that is spelled is taken, and the cursor stands behind it. -/
theorem takeUnit_append {unit : Nat} {digits : List Char}
    (h : SpellsUnit unit ('\\' :: 'u' :: digits)) (rest : List Char) :
    takeUnit (digits ++ rest) = (some unit, rest) := by
  obtain ⟨hlength, hdigits, hradix⟩ := digits_of_spellsUnit h
  have hsize : byteLength digits = 4 := (byteLength_of_digits hdigits).trans hlength
  have hcut : upToByte? 4 (digits ++ rest) = some digits :=
    upToByte?_eq_some_iff.mpr ⟨List.prefix_append _ _, hsize⟩
  have hdrop : (digits ++ rest).drop 4 = rest := by rw [← hlength, List.drop_left]
  rw [takeUnit, hcut]
  dsimp only
  rw [if_pos (all_isHexByte_iff.mpr hdigits), hradix, hdrop]

/-- A unit is taken whole, four bytes of it, or the cursor stays where it is. -/
theorem takesWhole_takeUnit :
    TakesWhole takeUnit (fun unit digits => SpellsUnit unit ('\\' :: 'u' :: digits)) 4 where
  taken cursor unit rest := by
    constructor
    · intro h
      unfold takeUnit at h
      split at h
      next => cases h
      next digits hcut =>
        obtain ⟨⟨more, rfl⟩, hsize⟩ := upToByte?_eq_some_iff.mp hcut
        split at h
        next hhex =>
          -- four bytes of digits are four digits
          have hdigits := all_isHexByte_iff.mp hhex
          have hlength : digits.length = 4 := (byteLength_of_digits hdigits).symm.trans hsize
          obtain ⟨unit', hspells⟩ := exists_spellsUnit hlength hdigits
          rw [(digits_of_spellsUnit hspells).2.2, ← hlength, List.drop_left] at h
          obtain ⟨hunit, rfl⟩ := Prod.mk.inj h
          obtain rfl := Option.some.inj hunit
          exact ⟨digits, hspells, rfl⟩
        next => cases h
    · rintro ⟨digits, hspells, rfl⟩
      exact takeUnit_append hspells rest
  kept cursor h := by
    unfold takeUnit at h ⊢
    split at h
    next => rfl
    next =>
      split at h
      next hhex =>
        rw [if_pos hhex]
        split at h
        next => rfl
        next => cases h
      next hhex => rw [if_neg hhex]
  size unit digits h := by
    obtain ⟨hlength, hdigits, -⟩ := digits_of_spellsUnit h
    exact ⟨hlength, (byteLength_of_digits hdigits).trans hlength⟩
  value unit digits h := spellsUnit_lt h

theorem isLowSurrogate_iff {unit : Nat} :
    isLowSurrogate unit = true ↔ 0xdc00 ≤ unit ∧ unit ≤ 0xdfff := by
  rw [isLowSurrogate, Bool.and_eq_true, decide_eq_true_eq, decide_eq_true_eq]

/-- A low surrogate is taken whole, six bytes of it, or the cursor stays where it is. -/
theorem takesWhole_takeLowSurrogate :
    TakesWhole takeLowSurrogate
      (fun unit spelled => SpellsUnit unit spelled ∧ 0xdc00 ≤ unit ∧ unit ≤ 0xdfff) 6 where
  taken cursor unit rest := by
    constructor
    · intro h
      unfold takeLowSurrogate at h
      split at h
      next ahead =>
        split at h
        next => cases h
        next unit' after htake =>
          split at h
          next hlow =>
            obtain ⟨hunit, rfl⟩ := Prod.mk.inj h
            obtain rfl := Option.some.inj hunit
            obtain ⟨digits, hspells, rfl⟩ := (takesWhole_takeUnit.taken _ _ _).mp htake
            exact ⟨_, ⟨hspells, isLowSurrogate_iff.mp hlow⟩, rfl⟩
          next => cases h
      next => cases h
    · rintro ⟨spelled, ⟨hspells, hlow⟩, rfl⟩
      obtain ⟨w, x, y, z, rfl, -⟩ := hexUnit?_of_spellsUnit hspells
      -- the other cursor has gone on, and only a low surrogate moves the first one
      have htake := takeUnit_append hspells rest
      show takeLowSurrogate ('\\' :: 'u' :: ([w, x, y, z] ++ rest)) = (some unit, rest)
      rw [takeLowSurrogate, htake]
      exact if_pos (isLowSurrogate_iff.mpr hlow)
  kept cursor h := by
    unfold takeLowSurrogate at h ⊢
    split at h
    next ahead =>
      split at h
      next => rfl
      next unit after htake =>
        split at h
        next => cases h
        next hlow => rw [if_neg hlow]
    next => rfl
  size unit spelled h := by
    obtain ⟨w, x, y, z, rfl, -⟩ := hexUnit?_of_spellsUnit h.1
    have hsize := (takesWhole_takeUnit.size unit [w, x, y, z] h.1).2
    refine ⟨rfl, ?_⟩
    rw [byteLength_cons, byteLength_cons, hsize]
    rfl
  value unit spelled h := spellsUnit_lt h.1

section

variable {read? : List Char → Option (Nat × List Char)} {cursor rest : List Char} {unit : Nat}

theorem onCursor_of_none (h : read? cursor = none) : onCursor read? cursor = (none, cursor) := by
  rw [onCursor, h]

theorem onCursor_of_some (h : read? cursor = some (unit, rest)) :
    onCursor read? cursor = (some unit, rest) := by
  rw [onCursor, h]

/-- A cursor says no more than the reader it comes from. -/
theorem onCursor_eq_none_iff : (onCursor read? cursor).1 = none ↔ read? cursor = none := by
  cases h : read? cursor with
  | none =>
      rw [onCursor_of_none h]
      exact iff_of_true rfl rfl
  | some pair =>
      obtain ⟨unit, rest⟩ := pair
      rw [onCursor_of_some h]
      exact iff_of_false (Option.some_ne_none _) (Option.some_ne_none _)

/-- Readers of the same spellings are the same. -/
theorem TakesWhole.eq_onCursor {read : List Char → Option Nat × List Char}
    {Spells : Nat → List Char → Prop} {width : Nat} (h : TakesWhole read Spells width)
    (hread : ∀ cursor unit rest, read? cursor = some (unit, rest) ↔
      ∃ front, Spells unit front ∧ cursor = front ++ rest) : read = onCursor read? := by
  funext cursor
  cases htake : read? cursor with
  | none =>
      have hnone : (read cursor).1 = none := by
        refine Option.eq_none_iff_forall_ne_some.mpr fun unit hunit => ?_
        have hfront := (h.taken cursor unit (read cursor).2).mp (Prod.ext hunit rfl)
        rw [← hread, htake] at hfront
        cases hfront
      rw [onCursor_of_none htake]
      exact Prod.ext hnone (h.kept cursor hnone)
  | some pair =>
      obtain ⟨unit, rest⟩ := pair
      rw [onCursor_of_some htake]
      exact (h.taken cursor unit rest).mpr ((hread cursor unit rest).mp htake)

end

/-- In bytes a unit is taken as it is in characters. -/
theorem takeUnit_eq : takeUnit = onCursor readUnit? :=
  takesWhole_takeUnit.eq_onCursor fun _ _ _ => readUnit?_eq_some_iff

theorem takeLowSurrogate_eq : takeLowSurrogate = onCursor readLowSurrogate? := by
  refine takesWhole_takeLowSurrogate.eq_onCursor fun cursor unit rest => ?_
  rw [readLowSurrogate?_eq_some_iff, isLowSurrogate_iff]
  constructor
  · rintro ⟨hlow, spelled, hspells, heq⟩
    exact ⟨spelled, ⟨hspells, hlow⟩, heq⟩
  · rintro ⟨spelled, ⟨hspells, hlow⟩, heq⟩
    exact ⟨hlow, spelled, hspells, heq⟩

/-! ## 4. Rounds -/

/-- Behind a unit that was read, the text can be cut after its four bytes. -/
theorem upToByte?_of_takeUnit {escape rest : List Char} {unit : Nat}
    (h : takeUnit escape = (some unit, rest)) : upToByte? 4 escape = some (escape.take 4) := by
  obtain ⟨digits, hspells, rfl⟩ := (takesWhole_takeUnit.taken _ _ _).mp h
  obtain ⟨hlength, hsize⟩ := takesWhole_takeUnit.size unit digits hspells
  have htake : (digits ++ rest).take 4 = digits := by rw [← hlength, List.take_left]
  rw [htake]
  exact upToByte?_eq_some_iff.mpr ⟨List.prefix_append _ _, hsize⟩

theorem takeUnit_of_read {escape after : List Char} {unit : Nat}
    (h : readUnit? escape = some (unit, after)) : takeUnit escape = (some unit, after) := by
  rw [takeUnit_eq, onCursor_of_some h]

/-- What a round of unescaping puts out and leaves, a round with a cursor does, too. -/
theorem Round.takeRound_eq {s out rest : List Char} (h : Round s out rest) :
    takeRound s = some (out, rest) := by
  cases h with
  | plain h =>
      rw [takeRound]
      · rintro rfl
        exact absurd rfl h
      · rintro _ rfl
        exact absurd rfl h
      · rintro _ _ rfl
        exact absurd rfl h
  | dangling => rfl
  | escaped h =>
      rw [takeRound]
      rintro rfl
      exact absurd rfl h
  | malformed h =>
      have htake : takeUnit rest = (none, rest) := by rw [takeUnit_eq, onCursor_of_none h]
      rw [takeRound, takeEscape, htake]
  | unit hunit hhigh hlow =>
      simp [takeRound, takeEscape, takeUnit_of_read hunit, firstCharacter?, hhigh, hlow]
  | @pair escape after _ high low hunit hhigh hlow =>
      have hislow := (readLowSurrogate?_eq_some_iff.mp hlow).1
      have hbehind : takeLowSurrogate after = (some low, rest) := by
        rw [takeLowSurrogate_eq, onCursor_of_some hlow]
      simp [takeRound, takeEscape, takeUnit_of_read hunit, hbehind, firstCharacter?, hhigh, hislow]
  | unpaired hunit h =>
      -- there is no character, and what is cut off is what was just taken
      have htake := takeUnit_of_read hunit
      have hcut := upToByte?_of_takeUnit htake
      rcases h with ⟨hhigh, hnone⟩ | ⟨hhigh, hlow⟩
      · have hbehind : takeLowSurrogate rest = (none, rest) := by
          rw [takeLowSurrogate_eq, onCursor_of_none hnone]
        simp [takeRound, takeEscape, htake, hbehind, firstCharacter?, hhigh, hcut]
      · simp [takeRound, takeEscape, htake, firstCharacter?, hhigh, hlow, hcut]

/-- As long as there is text, a round with a cursor has a result. -/
theorem takeRound_round {s : List Char} (h : s ≠ []) :
    ∃ out rest, takeRound s = some (out, rest) ∧ Round s out rest := by
  obtain ⟨out, rest, hround⟩ := exists_round h
  exact ⟨out, rest, hround.takeRound_eq, hround⟩

theorem length_of_takeRound {s out rest : List Char} (hs : s ≠ [])
    (h : takeRound s = some (out, rest)) : rest.length < s.length := by
  obtain ⟨out', rest', htake, hround⟩ := takeRound_round hs
  obtain ⟨rfl, rfl⟩ := Prod.mk.inj (Option.some.inj (htake.symm.trans h))
  exact hround.length_lt

/-- Unescaping round by round with a cursor.  There is no result if a round has none. -/
def unescapeInBytes : List Char → Option (List Char)
  | [] => some []
  | c :: s =>
      match _htake : takeRound (c :: s) with
      | none => none
      | some (out, rest) => (unescapeInBytes rest).map (out ++ ·)
termination_by s => s.length
decreasing_by exact length_of_takeRound (List.cons_ne_nil _ _) _htake

/-- In bytes no cut fails, and the text is the same as in characters. -/
theorem unescapeInBytes_eq (s : List Char) : unescapeInBytes s = some (unescape s) := by
  fun_induction unescapeInBytes s with
  | case1 => rw [unescape_nil]
  | case2 c s htake =>
      obtain ⟨out, rest, hsome, -⟩ := takeRound_round (List.cons_ne_nil c s)
      cases htake.symm.trans hsome
  | case3 c s out rest htake ih =>
      obtain ⟨out', rest', hsome, hround⟩ := takeRound_round (List.cons_ne_nil c s)
      obtain ⟨rfl, rfl⟩ := Prod.mk.inj (Option.some.inj (hsome.symm.trans htake))
      rw [ih, Option.map_some, hround.unescape_eq]

/-! ## 5. What the rounds come to -/

/-- What a round leaves is the end of what it was given. -/
theorem Round.suffix {s out rest : List Char} (h : Round s out rest) : rest <:+ s := by
  have hread {text after : List Char} {unit : Nat} (hunit : readUnit? text = some (unit, after)) :
      after <:+ '\\' :: 'u' :: text := by
    obtain ⟨digits, -, rfl⟩ := readUnit?_eq_some_iff.mp hunit
    exact List.suffix_append ('\\' :: 'u' :: digits) after
  cases h with
  | plain h => exact List.suffix_cons _ _
  | dangling => exact List.nil_suffix
  | @escaped c h => exact List.suffix_append ['\\', c] rest
  | malformed h => exact List.suffix_append ['\\', 'u'] rest
  | unit hunit hhigh hlow => exact hread hunit
  | pair hunit hhigh hlow =>
      obtain ⟨-, spelled, -, rfl⟩ := readLowSurrogate?_eq_some_iff.mp hlow
      exact (List.suffix_append spelled rest).trans (hread hunit)
  | unpaired hunit h => exact hread hunit

theorem Reaches.suffix {s t : List Char} (h : Reaches s t) : t <:+ s := by
  induction h with
  | refl => exact List.suffix_refl s
  | tail _ hround ih =>
      obtain ⟨out, hround⟩ := hround
      exact hround.suffix.trans ih

/-- A unit is taken exactly if four digits follow. -/
theorem isSome_takeUnit_iff {cursor : List Char} :
    (takeUnit cursor).1.isSome = true ↔
      4 ≤ cursor.length ∧ ∀ c ∈ cursor.take 4, ∃ digit, ShowsDigit digit c := by
  simp only [← isSome_hexValue?_iff]
  constructor
  · intro h
    obtain ⟨unit, hunit⟩ := Option.isSome_iff_exists.mp h
    obtain ⟨digits, hspells, hcursor⟩ :=
      (takesWhole_takeUnit.taken cursor unit (takeUnit cursor).2).mp (Prod.ext hunit rfl)
    obtain ⟨hlength, hdigits, -⟩ := digits_of_spellsUnit hspells
    -- four characters of the cursor are just the spelling
    have htake : cursor.take 4 = digits := by rw [hcursor, ← hlength, List.take_left]
    refine ⟨?_, htake ▸ hdigits⟩
    rw [hcursor, List.length_append]
    omega
  · rintro ⟨hle, hdigits⟩
    obtain ⟨unit, hspells⟩ := exists_spellsUnit (List.length_take_of_le hle) hdigits
    have htake := takeUnit_append hspells (cursor.drop 4)
    rw [List.take_append_drop] at htake
    rw [htake]
    rfl

/-- What becomes of an escape that unescaping a text comes to, with the cursor behind its `u`.  The
cursor stands between two characters, and what is no unit, or half of a pair alone, is put out as it
is written. -/
structure KeepsEscape (s escape : List Char) : Prop where
  boundary : ∃ front, s = front ++ escape ∧
    String.Pos.Raw.IsValid (String.ofList s) ⟨byteLength front⟩
  malformed : (takeUnit escape).1 = none →
    ∃ before, unescape s = before ++ '\\' :: 'u' :: unescape escape
  unpaired : ∀ unit rest, takeUnit escape = (some unit, rest) →
    isHighSurrogate unit = true ∧ (takeLowSurrogate rest).1 = none ∨ isLowSurrogate unit = true →
    ∃ before, unescape s = before ++ '\\' :: 'u' :: (escape.take 4 ++ unescape rest)

/-- At every escape that is come to, the look-ahead takes all or nothing. -/
theorem Reaches.keepsEscape {s escape : List Char} (h : Reaches s ('\\' :: 'u' :: escape)) :
    KeepsEscape s escape where
  boundary := by
    obtain ⟨front, hs⟩ := (List.suffix_append ['\\', 'u'] escape).trans h.suffix
    refine ⟨front, hs.symm, isValid_iff.mpr ⟨front, upToByte?_eq_some_iff.mpr ⟨?_, rfl⟩⟩⟩
    exact ⟨escape, hs⟩
  malformed hnone := by
    obtain ⟨before, hbefore⟩ := h.exists_output
    rw [takeUnit_eq, onCursor_eq_none_iff] at hnone
    rw [unescape_malformed hnone] at hbefore
    exact ⟨before, hbefore⟩
  unpaired unit rest htake hunpaired := by
    obtain ⟨before, hbefore⟩ := h.exists_output
    have hread : readUnit? escape = some (unit, rest) :=
      readUnit?_eq_some_iff.mpr ((takesWhole_takeUnit.taken _ _ _).mp htake)
    rw [unescape_unpaired hread] at hbefore
    · exact ⟨before, hbefore⟩
    · rcases hunpaired with ⟨hhigh, hnone⟩ | hlow
      · rw [takeLowSurrogate_eq, onCursor_eq_none_iff] at hnone
        exact .inl ⟨hhigh, hnone⟩
      · refine .inr ⟨?_, hlow⟩
        -- no unit is in both ranges
        rw [← Bool.not_eq_true]
        intro hhigh
        rw [isLowSurrogate_of_isHighSurrogate hhigh] at hlow
        cases hlow

/-- Looking ahead takes all of an escape or nothing of it.  A unit is taken exactly if four digits
come next, and a low surrogate exactly if an escape of one does; otherwise the cursor stays.  Where
a unit was taken, cutting the text after four bytes does not fail.  So no round fails, unescaping
with a cursor has a result for every text, and it is that of `unescape`. -/
theorem look_ahead_takes_all_or_nothing :
    (TakesWhole takeUnit (fun unit digits => SpellsUnit unit ('\\' :: 'u' :: digits)) 4 ∧
      ∀ cursor, (takeUnit cursor).1.isSome = true ↔
        4 ≤ cursor.length ∧ ∀ c ∈ cursor.take 4, ∃ digit, ShowsDigit digit c) ∧
    TakesWhole takeLowSurrogate
      (fun unit spelled => SpellsUnit unit spelled ∧ 0xdc00 ≤ unit ∧ unit ≤ 0xdfff) 6 ∧
    (∀ s n, String.Pos.Raw.IsValid (String.ofList s) ⟨n⟩ ↔ ∃ front, upToByte? n s = some front) ∧
    (∀ cursor unit rest, takeUnit cursor = (some unit, rest) →
      upToByte? 4 cursor = some (cursor.take 4)) ∧
    (takeUnit = onCursor readUnit? ∧ takeLowSurrogate = onCursor readLowSurrogate?) ∧
    (∀ s, s ≠ [] → ∃ out rest, takeRound s = some (out, rest) ∧ Round s out rest) ∧
    (∀ s, unescapeInBytes s = some (unescape s)) ∧
    ∀ s escape, Reaches s ('\\' :: 'u' :: escape) → KeepsEscape s escape :=
  ⟨⟨takesWhole_takeUnit, fun _ => isSome_takeUnit_iff⟩, takesWhole_takeLowSurrogate,
    fun _ _ => isValid_iff, fun _ _ _ => upToByte?_of_takeUnit,
    ⟨takeUnit_eq, takeLowSurrogate_eq⟩, fun _ => takeRound_round, unescapeInBytes_eq,
    fun _ _ => Reaches.keepsEscape⟩

/-- Digits that are cut short by a character of three bytes, and half of a pair in front of one. -/
theorem look_ahead_takes_all_or_nothing_wide :
    (takeUnit "12€".toList).1 = none ∧ takeUnit "D83D€".toList = (some 0xd83d, "€".toList) ∧
      upToByte? 4 "D83D€".toList = some "D83D".toList ∧
      (∃ out rest, takeRound "é\\u12€".toList = some (out, rest) ∧
        Round "é\\u12€".toList out rest) ∧
      Reaches "é\\u12€".toList "\\u12€".toList ∧ Reaches "😀\\uD83D€".toList "\\uD83D€".toList ∧
      (∃ before, unescape "é\\u12€".toList = before ++ '\\' :: 'u' :: unescape "12€".toList) ∧
      ∃ before, unescape "😀\\uD83D€".toList =
        before ++ '\\' :: 'u' :: ("D83D".toList ++ unescape "€".toList) := by
  have hnone : (takeUnit "12€".toList).1 = none := by decide +kernel
  have htake : takeUnit "D83D€".toList = (some 0xd83d, "€".toList) := by decide +kernel
  have hshort : Reaches "é\\u12€".toList "\\u12€".toList :=
    .single ⟨['é'], .plain (by decide) "\\u12€".toList⟩
  have hhalf : Reaches "😀\\uD83D€".toList "\\uD83D€".toList :=
    .single ⟨['😀'], .plain (by decide) "\\uD83D€".toList⟩
  obtain ⟨-, -, -, hcut, -, hround, -, hkeeps⟩ := look_ahead_takes_all_or_nothing
  have hunpaired : isHighSurrogate 0xd83d = true ∧ (takeLowSurrogate "€".toList).1 = none ∨
      isLowSurrogate 0xd83d = true := by decide +kernel
  exact ⟨hnone, htake, hcut _ _ _ htake, hround _ (by decide), hshort, hhalf,
    (hkeeps _ _ hshort).malformed hnone, (hkeeps _ _ hhalf).unpaired _ _ htake hunpaired⟩

end ProcessLaunch.Properties
