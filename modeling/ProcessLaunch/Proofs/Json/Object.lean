import ProcessLaunch.Json.Object
import ProcessLaunch.Proofs.Json.Skip

/-!
# Written objects and arrays

Members and elements with commas between them.  No text lists its items in two ways, and what the
members of an object are read into is told member by member.
-/

namespace ProcessLaunch.Json

open Reader

/-! ## 1. Lists with commas -/

/-- What stands in front of an item: only space if it is the first, and a comma if not. -/
def Lead : Bool → List Char → Prop
  | true, s => Spaces s
  | false, s => ∃ b c, Spaces b ∧ Spaces c ∧ s = b ++ ',' :: c

inductive Listed {α : Type} (frame : Frame) (writes : α → List Char → Prop) :
    Bool → List α → List Char → Prop
  | closed {first : Bool} {b : List Char} (hb : Spaces b) :
      Listed frame writes first [] (b ++ [frame.close])
  | item {first : Bool} {a : α} {as : List α} {b s t : List Char} (hb : Lead first b)
      (ha : writes a s) (ht : Listed frame writes false as t) :
      Listed frame writes first (a :: as) (b ++ s ++ t)

def WritesMember (m : String × List Char) (s : List Char) : Prop :=
  ∃ k a c, WritesString m.1 k ∧ Spaces a ∧ Spaces c ∧ Writes .value m.2 ∧
    s = k ++ a ++ ':' :: (c ++ m.2)

def WritesElement (v s : List Char) : Prop := Writes .value v ∧ s = v

def WritesObject (ms : List (String × List Char)) (s : List Char) : Prop :=
  ∃ t, Listed .object WritesMember true ms t ∧ s = '\x7b' :: t

def WritesArray (vs : List (List Char)) (s : List Char) : Prop :=
  ∃ t, Listed .array WritesElement true vs t ∧ s = '[' :: t

/-! ## 2. First characters -/

def Begun (s : List Char) : Prop :=
  ∃ c t, s = c :: t ∧ isSpace c = false ∧ c ≠ ',' ∧ ∀ frame : Frame, c ≠ frame.close

theorem begun_cons {c : Char} {s : List Char} (hspace : isSpace c = false)
    (h : c ∉ [',', ']', '\x7d']) : Begun (c :: s) := by
  simp only [List.mem_cons, List.not_mem_nil, or_false, not_or] at h
  refine ⟨c, s, rfl, hspace, h.1, fun frame => ?_⟩
  cases frame
  · exact h.2.1
  · exact h.2.2

theorem Begun.unspaced {s : List Char} (h : Begun s) : Unspaced s := by
  obtain ⟨c, t, rfl, hspace, -⟩ := h
  exact unspaced_cons hspace

theorem Begun.ne_nil {s : List Char} (h : Begun s) : s ≠ [] := by
  obtain ⟨c, t, rfl, -⟩ := h
  exact List.cons_ne_nil c t

theorem Begun.append {s : List Char} (h : Begun s) (t : List Char) : Begun (s ++ t) := by
  obtain ⟨c, u, rfl, hc⟩ := h
  exact ⟨c, u ++ t, rfl, hc⟩

/-- No value begins with space or with a character that stands between values. -/
theorem Writes.begun {s : List Char} (h : Writes .value s) : Begun s := by
  cases h with
  | word h =>
      simp only [valueWords, List.mem_cons, List.not_mem_nil, or_false] at h
      rcases h with rfl | rfl | rfl <;> exact begun_cons (by decide) (by decide)
  | number h =>
      have hspace := h.unspaced
      obtain ⟨c, t, rfl, hc⟩ := h.exists_cons
      refine begun_cons (hspace c rfl) fun hmem => ?_
      simp only [List.mem_cons, List.not_mem_nil, or_false] at hmem
      rcases hmem with rfl | rfl | rfl <;> revert hc <;> decide
  | string h =>
      obtain ⟨_, t, -, rfl⟩ := h
      exact begun_cons (by decide) (by decide)
  | @empty frame => cases frame <;> exact begun_cons (by decide) (by decide)
  | @filled frame => cases frame <;> exact begun_cons (by decide) (by decide)

theorem WritesMember.begun {m : String × List Char} {s : List Char} (h : WritesMember m s) :
    Begun s := by
  obtain ⟨_, a, c, ⟨t, -, rfl⟩, -, -, -, rfl⟩ := h
  exact begun_cons (by decide) (by decide)

/-- What follows an item is a comma or a closing character, so no number goes on in it. -/
theorem Listed.ended {α : Type} {frame : Frame} {writes : α → List Char → Prop} {as : List α}
    {t : List Char} (h : Listed frame writes false as t) (rest : List Char) :
    Ended (t ++ rest) := by
  cases h with
  | closed hb =>
      rw [List.append_assoc]
      have hclose : Ended ([frame.close] ++ rest) := by
        cases frame <;> exact ended_cons (by decide) (by decide)
      exact hclose.append hb
  | item hlead =>
      obtain ⟨b, c, hb, -, rfl⟩ := hlead
      simp only [List.append_assoc, List.cons_append]
      exact (ended_cons (by decide) (by decide)).append hb

/-! ## 3. No text is written in two ways -/

theorem eq_of_spaces_append {b b' s s' : List Char} (hb : Spaces b) (hb' : Spaces b')
    (hs : Unspaced s) (hs' : Unspaced s') (h : b ++ s = b' ++ s') : s = s' := by
  have hrun : spaces.run (b ++ s) = .ok ((), s) := run_spaces_eq_ok.mpr ⟨b, hb, hs, rfl⟩
  have hrun' : spaces.run (b ++ s) = .ok ((), s') := run_spaces_eq_ok.mpr ⟨b', hb', hs', h⟩
  rw [hrun] at hrun'
  cases hrun'
  rfl

/-- What stands in front of an item is told from the item. -/
theorem eq_of_lead_append {first : Bool} {b b' s s' : List Char} (hb : Lead first b)
    (hb' : Lead first b') (hs : Unspaced s) (hs' : Unspaced s') (h : b ++ s = b' ++ s') :
    s = s' := by
  cases first with
  | true => exact eq_of_spaces_append hb hb' hs hs' h
  | false =>
      obtain ⟨b, c, hb, hc, rfl⟩ := hb
      obtain ⟨b', c', hb', hc', rfl⟩ := hb'
      rw [List.append_assoc, List.append_assoc] at h
      have hcomma := eq_of_spaces_append hb hb' (unspaced_cons (by decide))
        (unspaced_cons (by decide)) h
      exact eq_of_spaces_append hc hc' hs hs' (List.cons.inj hcomma).2

/-- An item is never taken for the end of the list. -/
theorem lead_append_ne_close {frame : Frame} {first : Bool} {b b' s rest : List Char}
    (hb : Lead first b) (hb' : Spaces b') (hs : Begun s) : b ++ s ≠ b' ++ frame.close :: rest := by
  intro h
  have hclose : Unspaced (frame.close :: rest) := unspaced_cons (isSpace_close frame)
  cases first with
  | true =>
      have heq := eq_of_spaces_append hb hb' hs.unspaced hclose h
      obtain ⟨c, t, rfl, -, -, hc⟩ := hs
      exact hc frame (List.cons.inj heq).1
  | false =>
      obtain ⟨b, c, hb, -, rfl⟩ := hb
      rw [List.append_assoc] at h
      have heq := eq_of_spaces_append hb hb' (unspaced_cons (by decide)) hclose h
      exact close_ne_comma frame (List.cons.inj heq).1.symm

def Delimited {α : Type} (writes : α → List Char → Prop) : Prop :=
  ∀ {a a' s s' rest rest'}, writes a s → writes a' s' → Ended rest → Ended rest' →
    s ++ rest = s' ++ rest' → a = a' ∧ rest = rest'

/-- A text lists its items in one way, whatever follows it. -/
theorem Listed.unique {α : Type} {frame : Frame} {writes : α → List Char → Prop}
    (hbegun : ∀ {a s}, writes a s → Begun s) (hdelimited : Delimited writes) {first : Bool}
    {as as' : List α} {t t' rest rest' : List Char} (h : Listed frame writes first as t)
    (h' : Listed frame writes first as' t') (heq : t ++ rest = t' ++ rest') : as = as' := by
  induction h generalizing as' t' rest' with
  | @closed first b hb =>
      cases h' with
      | closed => rfl
      | item hb' ha' =>
          simp only [List.append_assoc] at heq
          exact absurd heq.symm (lead_append_ne_close hb' hb ((hbegun ha').append _))
  | @item first a as b s t hb ha ht ih =>
      cases h' with
      | closed hb' =>
          simp only [List.append_assoc] at heq
          exact absurd heq (lead_append_ne_close hb hb' ((hbegun ha).append _))
      | item hb' ha' ht' =>
          simp only [List.append_assoc] at heq
          -- both items begin at the same place and end at the same place
          have hitem := eq_of_lead_append hb hb' ((hbegun ha).append _).unspaced
            ((hbegun ha').append _).unspaced heq
          obtain ⟨rfl, hbehind⟩ := hdelimited ha ha' (ht.ended rest) (ht'.ended rest') hitem
          rw [ih ht' hbehind]

/-- Where a value ends can be seen from the text, if no number goes on behind it. -/
theorem delimited_writes {v v' rest rest' : List Char} (hv : Writes .value v)
    (hv' : Writes .value v') (hrest : Ended rest) (hrest' : Ended rest')
    (h : v ++ rest = v' ++ rest') : v = v' ∧ rest = rest' := by
  -- both are what is skipped from the same text
  have hskip := reads_skipValue.complete (a := ()) ⟨[], v, spaces_nil, hv, rfl⟩ hrest
  have hskip' := reads_skipValue.complete (a := ()) ⟨[], v', spaces_nil, hv', rfl⟩ hrest'
  simp only [List.nil_append] at hskip hskip'
  rw [h, hskip'] at hskip
  cases hskip
  exact ⟨List.append_cancel_right h, rfl⟩

theorem delimited_element : Delimited WritesElement := by
  rintro v v' _ _ rest rest' ⟨hv, rfl⟩ ⟨hv', rfl⟩ hrest hrest' h
  exact delimited_writes hv hv' hrest hrest' h

/-- Where a member ends is where its value ends. -/
theorem delimited_member : Delimited WritesMember := by
  rintro ⟨key, v⟩ ⟨key', v'⟩ _ _ rest rest' ⟨k, a, c, hk, ha, hc, hv, rfl⟩
    ⟨k', a', c', hk', ha', hc', hv', rfl⟩ hrest hrest' h
  simp only [List.append_assoc, List.cons_append] at h
  have hcolon (s : List Char) : Unspaced (':' :: s) := unspaced_cons (by decide)
  have hended (s : List Char) : Ended (':' :: s) := ended_cons (by decide) (by decide)
  -- both keys are what is read from the same text
  have hread := reads_string.reads.complete hk ((hended (c ++ (v ++ rest))).append ha)
  have hread' := reads_string.reads.complete hk' ((hended (c' ++ (v' ++ rest'))).append ha')
  rw [h, hread', Except.ok.injEq, Prod.mk.injEq] at hread
  obtain ⟨hkey, hbehind⟩ := hread
  have hvalue := List.cons.inj (eq_of_spaces_append ha' ha (hcolon _) (hcolon _) hbehind)
  have hstart := eq_of_spaces_append hc' hc (hv'.begun.append _).unspaced
    (hv.begun.append _).unspaced hvalue.2
  obtain ⟨hv, hrest⟩ := delimited_writes hv' hv hrest' hrest hstart
  exact ⟨Prod.ext hkey.symm hv.symm, hrest.symm⟩

/-- An object has its members in one way. -/
theorem WritesObject.unique {ms ms' : List (String × List Char)} {s rest rest' : List Char}
    (h : WritesObject ms s) {s' : List Char} (h' : WritesObject ms' s')
    (heq : s ++ rest = s' ++ rest') : ms = ms' := by
  obtain ⟨t, ht, rfl⟩ := h
  obtain ⟨t', ht', rfl⟩ := h'
  exact ht.unique WritesMember.begun delimited_member ht' (List.cons.inj heq).2

/-- An array has its elements in one way. -/
theorem WritesArray.unique {vs vs' : List (List Char)} {s s' rest rest' : List Char}
    (h : WritesArray vs s) (h' : WritesArray vs' s') (heq : s ++ rest = s' ++ rest') :
    vs = vs' := by
  obtain ⟨t, ht, rfl⟩ := h
  obtain ⟨t', ht', rfl⟩ := h'
  have hbegun {v s : List Char} (h : WritesElement v s) : Begun s := h.2 ▸ h.1.begun
  exact ht.unique hbegun delimited_element ht' (List.cons.inj heq).2

/-! ## 4. Members -/

def WritesKey (first : Bool) : Option String → List Char → Prop
  | none, s => ∃ b, Spaces b ∧ s = b ++ ['}']
  | some key, s => ∃ b k, Lead first b ∧ WritesString key k ∧ s = b ++ k

/-- A string is read up to the quote that closes it. -/
theorem run_stringBody_eq_ok {s rest : List Char} {text : String} :
    stringBody.run s = .ok (text, rest) ↔ ∃ k, WritesString text k ∧ '"' :: s = k ++ rest := by
  rw [takes_stringBody]
  constructor
  · rintro ⟨_, ⟨t, ht, rfl⟩, rfl⟩
    exact ⟨_, ⟨t, ht, rfl⟩, rfl⟩
  · rintro ⟨_, ⟨t, ht, rfl⟩, hs⟩
    exact ⟨_, ⟨t, ht, rfl⟩, (List.cons.inj hs).2⟩

/-- The next key is taken with what stands in front of it, or the end of the object is. -/
theorem takes_key? (first : Bool) : (key? first).Takes (WritesKey first) := by
  intro s found rest
  rw [key?, run_spaces_next_eq_ok]
  -- first what was read, by the branches of the reader; then what is written, by the same branches
  constructor
  · rintro ⟨b, c, t, hb, -, rfl, h⟩
    split at h
    next hc =>
      cases h
      exact ⟨_, ⟨b, hb, rfl⟩, by simp [hc]⟩
    next =>
      split at h
      next hfirst =>
        split at h
        next hc =>
          obtain ⟨key, hkey, rfl⟩ := run_map_eq_ok.mp h
          obtain ⟨k, hk, ht⟩ := run_stringBody_eq_ok.mp hkey
          exact ⟨b ++ k, ⟨b, k, hfirst ▸ hb, hk, rfl⟩, by rw [hc, ht, List.append_assoc]⟩
        next => cases h
      next hfirst =>
        split at h
        next hc =>
          simp only [run_bind_eq_ok, run_spaces_eq_ok, run_expect_eq_ok] at h
          obtain ⟨_, _, ⟨d, hd, _, rfl⟩, _, _, rfl, h⟩ := h
          obtain ⟨key, hkey, rfl⟩ := run_map_eq_ok.mp h
          obtain ⟨k, hk, ht⟩ := run_stringBody_eq_ok.mp hkey
          have hlead : Lead first (b ++ ',' :: d) := by
            rw [Bool.eq_false_iff.mpr hfirst]
            exact ⟨b, d, hb, hd, rfl⟩
          exact ⟨b ++ ',' :: d ++ k, ⟨_, k, hlead, hk, rfl⟩, by simp [hc, ht]⟩
        next => cases h
  · rintro ⟨_, hkey, rfl⟩
    cases found with
    | none =>
        obtain ⟨b, hb, rfl⟩ := hkey
        exact ⟨b, '\x7d', rest, hb, by decide, by simp, rfl⟩
    | some key =>
        obtain ⟨b, _, hb, ⟨t, ht, rfl⟩, rfl⟩ := hkey
        have hbody : stringBody.run (t ++ ['"'] ++ rest) = .ok (key, rest) :=
          takes_stringBody.run_append ⟨t, ht, rfl⟩ rest
        cases first with
        | true =>
            refine ⟨b, '"', t ++ ['"'] ++ rest, hb, by decide, by simp, ?_⟩
            exact run_map_eq_ok.mpr ⟨key, hbody, rfl⟩
        | false =>
            obtain ⟨b, d, hb, hd, rfl⟩ := hb
            refine ⟨b, ',', d ++ ('"' :: (t ++ ['"'] ++ rest)), hb, by decide, by simp, ?_⟩
            have hspaces : spaces.run (d ++ ('"' :: (t ++ ['"'] ++ rest))) =
                .ok ((), '"' :: (t ++ ['"'] ++ rest)) :=
              run_spaces_eq_ok.mpr ⟨d, hd, unspaced_cons (by decide), rfl⟩
            have hquote : (expect '"').run ('"' :: (t ++ ['"'] ++ rest)) =
                .ok ((), t ++ ['"'] ++ rest) := run_expect_eq_ok.mpr rfl
            simp only [Char.reduceEq, if_false, Bool.false_eq_true, if_true, run_bind, hspaces,
              hquote, run_map, hbody]

section

variable {φ : Type}

/-- What stands behind a key: the colon and the value, which makes other fields of the old ones. -/
def BehindKey (adds : List Char → φ → Prop) (fields : φ) (s : List Char) : Prop :=
  ∃ a c v, Spaces a ∧ Spaces c ∧ adds v fields ∧ s = a ++ ':' :: (c ++ v)

/-- A member is read exactly where a value stands that may be added. -/
def Member.Reads (m : Member φ) (fields : φ) (adds : List Char → φ → Prop) : Prop :=
  (m.reader fields).Reads (BehindKey adds)

theorem run_colon_eq_ok {s rest : List Char} {u : Unit} :
    colon.run s = .ok (u, rest) ↔ ∃ a, Spaces a ∧ s = a ++ ':' :: rest := by
  simp only [colon, run_bind_eq_ok, run_spaces_eq_ok, run_expect_eq_ok]
  constructor
  · rintro ⟨_, _, ⟨a, ha, _, rfl⟩, rfl⟩
    exact ⟨a, ha, rfl⟩
  · rintro ⟨a, ha, rfl⟩
    exact ⟨(), _, ⟨a, ha, unspaced_cons (by decide), rfl⟩, rfl⟩

/-- A member is read as the colon and then the value behind it. -/
theorem Member.reads_of_spaced {m : Member φ} {fields : φ} {r : Reader φ}
    {writes : φ → List Char → Prop}
    (hm : (m.reader fields).run = (do colon; r : Reader φ).run) (hr : r.Reads (Spaced writes)) :
    m.Reads fields fun v a => writes a v where
  sound {s a rest} h := by
    rw [hm, run_bind_eq_ok] at h
    obtain ⟨_, _, hcolon, h⟩ := h
    obtain ⟨b, hb, rfl⟩ := run_colon_eq_ok.mp hcolon
    obtain ⟨_, ⟨c, v, hc, hv, rfl⟩, rfl⟩ := hr.sound h
    exact ⟨_, ⟨b, c, v, hb, hc, hv, rfl⟩, by simp⟩
  complete := by
    rintro a _ ⟨b, c, v, hb, hc, hv, rfl⟩ rest hrest
    have hcolon : colon.run (b ++ ':' :: (c ++ v) ++ rest) = .ok ((), c ++ v ++ rest) :=
      run_colon_eq_ok.mpr ⟨b, hb, by simp⟩
    rw [hm, run_bind, hcolon]
    exact hr.complete ⟨c, v, hc, hv, rfl⟩ hrest

theorem Member.reads_read {value : ValueReader φ} {writes : φ → List Char → Prop}
    (h : value.Reads writes) (fields : φ) :
    (Member.read value).Reads fields fun v a => writes a v :=
  Member.reads_of_spaced rfl h.spaced

/-- A member that is skipped may have any value and changes no field. -/
theorem Member.reads_skipped (fields : φ) :
    (Member.skipped : Member φ).Reads fields fun v a => a = fields ∧ Writes .value v := by
  have hskip := reads_skipValue.map fun _ => fields
  have hspaced : ((fun _ => fields) <$> skipValue).Reads
      (Spaced fun a v => a = fields ∧ Writes .value v) := by
    refine ⟨fun h => ?_, fun ht _ hrest => ?_⟩
    · obtain ⟨_, ⟨_, rfl, b, v, hb, hv, rfl⟩, hs⟩ := hskip.sound h
      exact ⟨_, ⟨b, v, hb, ⟨rfl, hv⟩, rfl⟩, hs⟩
    · obtain ⟨b, v, hb, ⟨rfl, hv⟩, rfl⟩ := ht
      exact hskip.complete ⟨(), rfl, b, v, hb, hv, rfl⟩ hrest
  exact Member.reads_of_spaced rfl hspaced

theorem Member.reads_refused (e : Error) (fields : φ) :
    (Member.refused e : Member φ).Reads fields fun _ _ => False where
  sound h := by cases h
  complete := by
    rintro a _ ⟨_, _, _, _, _, h, _⟩
    exact h.elim

inductive AddsAll (adds : φ → String × List Char → φ → Prop) :
    φ → List (String × List Char) → φ → Prop
  | nil {fields : φ} : AddsAll adds fields [] fields
  | cons {fields between behind : φ} {m : String × List Char} {ms : List (String × List Char)}
      (h : adds fields m between) (hs : AddsAll adds between ms behind) :
      AddsAll adds fields (m :: ms) behind

variable {member : φ → String → Member φ} {adds : φ → String × List Char → φ → Prop}

def WritesStep (adds : φ → String × List Char → φ → Prop) (first : Bool) (fields : φ) :
    Option φ → List Char → Prop
  | none, s => ∃ b, Spaces b ∧ s = b ++ ['\x7d']
  | some behind, s =>
      ∃ m b t, Lead first b ∧ WritesMember m t ∧ adds fields m behind ∧ s = b ++ t

/-- A step takes the next member or the end of the object, and what it makes of the fields is what
the member adds. -/
theorem reads_memberStep
    (hreads : ∀ fields key, (member fields key).Reads fields fun v => adds fields (key, v))
    (hvalue : ∀ {fields m behind}, adds fields m behind → Writes .value m.2) (first : Bool)
    (fields : φ) : (memberStep member first fields).Reads (WritesStep adds first fields) where
  sound {s found rest} h := by
    obtain ⟨key, _, hkey, hfound⟩ := run_bind_eq_ok.mp h
    obtain ⟨_, hlead, rfl⟩ := (takes_key? first).mp hkey
    cases key with
    | none =>
        cases hfound
        exact ⟨_, hlead, rfl⟩
    | some key =>
        obtain ⟨b, k, hb, hk, rfl⟩ := hlead
        obtain ⟨behind, hmember, rfl⟩ := run_map_eq_ok.mp hfound
        obtain ⟨_, ⟨a, c, v, ha, hc, hadds, rfl⟩, rfl⟩ := (hreads fields key).sound hmember
        have hm : WritesMember (key, v) (k ++ a ++ ':' :: (c ++ v)) :=
          ⟨k, a, c, hk, ha, hc, hvalue hadds, rfl⟩
        exact ⟨_, ⟨(key, v), b, _, hb, hm, hadds, rfl⟩, by simp⟩
  complete := by
    intro found t ht rest hrest
    cases found with
    | none =>
        have hkey := (takes_key? first).run_append (a := none) ht rest
        rw [memberStep, run_bind, hkey]
        rfl
    | some behind =>
        -- the key is taken with what stands in front of it, and then the value
        obtain ⟨⟨key, v⟩, b, _, hb, ⟨k, a, c, hk, ha, hc, -, rfl⟩, hadds, rfl⟩ := ht
        have hkey := (takes_key? first).run_append (a := some key) ⟨b, k, hb, hk, rfl⟩
          (a ++ ':' :: (c ++ v) ++ rest)
        have hmember := (hreads fields key).complete ⟨a, c, v, ha, hc, hadds, rfl⟩ hrest
        have htext : b ++ (k ++ a ++ ':' :: (c ++ v)) ++ rest =
            b ++ k ++ (a ++ ':' :: (c ++ v) ++ rest) := by simp
        rw [memberStep, run_bind, htext, hkey]
        exact run_map_eq_ok.mpr ⟨behind, hmember, rfl⟩

theorem takeMembers_of_none {first : Bool} {fields : φ} {s rest : List Char}
    (h : (memberStep member first fields).run s = .ok (none, rest)) :
    takeMembers member first fields s = .ok (fields, rest) := by
  rw [takeMembers]
  split <;> simp_all

theorem takeMembers_of_some {first : Bool} {fields between : φ} {s more : List Char}
    (h : (memberStep member first fields).run s = .ok (some between, more)) :
    takeMembers member first fields s = takeMembers member false between more := by
  rw [takeMembers]
  split <;> simp_all

/-- The members of an object are read one after the other. -/
theorem takeMembers_eq_ok
    (hreads : ∀ fields key, (member fields key).Reads fields fun v => adds fields (key, v))
    (hvalue : ∀ {fields m behind}, adds fields m behind → Writes .value m.2) {first : Bool}
    {fields behind : φ} {s rest : List Char} :
    takeMembers member first fields s = .ok (behind, rest) ↔
      ∃ ms t, Listed .object WritesMember first ms t ∧ AddsAll adds fields ms behind ∧
        s = t ++ rest := by
  have hstep := reads_memberStep hreads @hvalue
  constructor
  · intro h
    fun_induction takeMembers member first fields s with
    | case1 => cases h
    | case2 first _ s _ hrun =>
        cases h
        obtain ⟨_, ⟨b, hb, rfl⟩, rfl⟩ := (hstep first _).sound hrun
        exact ⟨[], _, .closed hb, .nil, rfl⟩
    | case3 first fields s between more hrun ih =>
        obtain ⟨_, ⟨m, b, t, hb, hm, hadds, rfl⟩, rfl⟩ := (hstep first fields).sound hrun
        obtain ⟨ms, u, hu, hall, rfl⟩ := ih h
        exact ⟨m :: ms, b ++ t ++ u, .item hb hm hu, .cons hadds hall, by simp⟩
  · rintro ⟨ms, t, ht, hadds, rfl⟩
    -- by induction on the members that are listed
    induction ht generalizing fields with
    | @closed first b hb =>
        cases hadds
        have hkey : (key? first).run (b ++ [Frame.object.close] ++ rest) = .ok (none, rest) :=
          (takes_key? first).run_append (a := none) ⟨b, hb, rfl⟩ rest
        refine takeMembers_of_none ?_
        rw [memberStep, run_bind, hkey]
        rfl
    | @item first m ms b s t hb hm ht ih =>
        cases hadds with
        | @cons _ between _ _ _ hadd hall =>
            have hrun := (hstep first fields).complete (a := some between)
              ⟨m, b, s, hb, hm, hadd, rfl⟩ (ht.ended rest)
            rw [List.append_assoc, takeMembers_of_some hrun]
            exact ih hall

end

/-! ## 5. Elements -/

def WritesNext {α : Type} (writes : α → List Char → Prop) (first : Bool) (a : α) (s : List Char) :
    Prop :=
  ∃ b v, Lead first b ∧ writes a v ∧ s = b ++ v

def WritesItem {α : Type} (writes : α → List Char → Prop) (first : Bool) :
    Option α → List Char → Prop
  | none, s => ∃ b, Spaces b ∧ s = b ++ [']']
  | some a, s => WritesNext writes first a s

/-- The next element is taken with what stands in front of it, or the end of the array is. -/
theorem reads_element? {α : Type} {value : ValueReader α} {writes : α → List Char → Prop}
    (h : value.Reads writes) (hvalue : ∀ {a v}, writes a v → Writes .value v) (first : Bool) :
    (element? first value).Reads (WritesItem writes first) where
  sound {s found rest} hrun := by
    obtain ⟨b, c, t, hb, -, rfl, hitem⟩ := run_spaces_next_eq_ok.mp hrun
    split at hitem
    next hc =>
      cases hitem
      exact ⟨_, ⟨b, hb, rfl⟩, by simp [hc]⟩
    next =>
      split at hitem
      next hfirst =>
        obtain ⟨a, hread, rfl⟩ := run_map_eq_ok.mp hitem
        obtain ⟨v, hv, ht⟩ := h.sound hread
        exact ⟨b ++ v, ⟨b, v, hfirst ▸ hb, hv, rfl⟩, by rw [ht, List.append_assoc]⟩
      next hfirst =>
        split at hitem
        next hc =>
          obtain ⟨a, hread, rfl⟩ := run_map_eq_ok.mp hitem
          obtain ⟨_, ⟨d, v, hd, hv, rfl⟩, rfl⟩ := h.spaced.sound hread
          have hlead : Lead first (b ++ ',' :: d) := by
            rw [Bool.eq_false_iff.mpr hfirst]
            exact ⟨b, d, hb, hd, rfl⟩
          exact ⟨b ++ ',' :: d ++ v, ⟨_, v, hlead, hv, rfl⟩, by simp [hc]⟩
        next => cases hitem
  complete := by
    intro found t ht rest hrest
    refine run_spaces_next_eq_ok.mpr ?_
    cases found with
    | none =>
        obtain ⟨b, hb, rfl⟩ := ht
        exact ⟨b, ']', rest, hb, by decide, by simp, rfl⟩
    | some a =>
        obtain ⟨b, v, hb, hv, rfl⟩ := ht
        -- the first element comes behind space only, the others behind a comma
        cases first with
        | true =>
            obtain ⟨d, t, ht, hspace, -, hclose⟩ := (hvalue hv).begun
            obtain ⟨c, t, rfl, -, hread⟩ := h.complete hv hrest
            obtain ⟨rfl, rfl⟩ := List.cons.inj ht
            refine ⟨b, c, t ++ rest, hb, hspace, by simp, ?_⟩
            have hc : c ≠ ']' := hclose .array
            rw [if_neg hc, if_pos rfl]
            exact run_map_eq_ok.mpr ⟨a, hread, rfl⟩
        | false =>
            obtain ⟨b, d, hb, hd, rfl⟩ := hb
            have hread := h.spaced.complete ⟨d, v, hd, hv, rfl⟩ hrest
            refine ⟨b, ',', d ++ v ++ rest, hb, by decide, by simp, ?_⟩
            exact run_map_eq_ok.mpr ⟨a, hread, rfl⟩

theorem reads_requiredElement {α : Type} {value : ValueReader α} {writes : α → List Char → Prop}
    (h : value.Reads writes) (hvalue : ∀ {a v}, writes a v → Writes .value v) (number : Nat)
    (expected : String) :
    (requiredElement number expected value).Reads (WritesNext writes (number == 0)) where
  sound {s a rest} hrun := by
    obtain ⟨found, _, hfound, hbehind⟩ := run_bind_eq_ok.mp hrun
    cases found with
    | none => cases hbehind
    | some a =>
        cases hbehind
        exact (reads_element? h @hvalue _).sound hfound
  complete := by
    intro a t ht rest hrest
    have hfound := (reads_element? h @hvalue (number == 0)).complete (a := some a) ht hrest
    exact run_bind_eq_ok.mpr ⟨some a, rest, hfound, rfl⟩

theorem run_endOfArray_eq_ok {s rest : List Char} {u : Unit} :
    endOfArray.run s = .ok (u, rest) ↔ ∃ b, Spaces b ∧ s = b ++ ']' :: rest := by
  simp only [endOfArray, run_bind_eq_ok, run_spaces_eq_ok, run_expect_eq_ok]
  constructor
  · rintro ⟨_, _, ⟨b, hb, _, rfl⟩, rfl⟩
    exact ⟨b, hb, rfl⟩
  · rintro ⟨b, hb, rfl⟩
    exact ⟨(), _, ⟨b, hb, unspaced_cons (by decide), rfl⟩, rfl⟩

def Lists {α : Type} (r : Reader α) (first : Bool) (holds : α → List (List Char) → Prop) : Prop :=
  r.Takes fun a t => ∃ vs, Listed .array WritesElement first vs t ∧ holds a vs

/-- Only space may stand before the end of an array. -/
theorem lists_end {α : Type} (a : α) :
    Lists (do endOfArray; return a) false fun a' vs => vs = [] ∧ a' = a := by
  intro s a' rest
  simp only [run_bind_eq_ok, run_endOfArray_eq_ok, run_pure_eq_ok]
  constructor
  · rintro ⟨_, _, ⟨b, hb, rfl⟩, rfl, rfl⟩
    exact ⟨b ++ [']'], ⟨[], .closed hb, rfl, rfl⟩, by simp⟩
  · rintro ⟨t, ⟨_, ht, rfl, rfl⟩, rfl⟩
    cases ht with
    | closed hb => exact ⟨(), rest, ⟨_, hb, by simp [Frame.close]⟩, rfl, rfl⟩

/-- An array that needs one more element lists it in front of the others. -/
theorem lists_element {α β : Type} {value : ValueReader α} {writes : α → List Char → Prop}
    (h : value.Reads writes) (hvalue : ∀ {a v}, writes a v → Writes .value v) (number : Nat)
    (expected : String) {k : α → Reader β} {holds : α → β → List (List Char) → Prop}
    (hk : ∀ a, Lists (k a) false (holds a)) :
    Lists (do k (← requiredElement number expected value)) (number == 0) fun b vs =>
      ∃ a v ws, vs = v :: ws ∧ writes a v ∧ holds a b ws := by
  have hread := reads_requiredElement h @hvalue number expected
  intro s b rest
  rw [run_bind_eq_ok]
  constructor
  · rintro ⟨a, _, ha, hb⟩
    obtain ⟨_, ⟨d, v, hd, hv, rfl⟩, rfl⟩ := hread.sound ha
    obtain ⟨t, ⟨ws, ht, hholds⟩, rfl⟩ := (hk a).mp hb
    exact ⟨d ++ v ++ t, ⟨v :: ws, .item hd ⟨hvalue hv, rfl⟩ ht, a, v, ws, rfl, hv, hholds⟩, by simp⟩
  · rintro ⟨t, ⟨_, ht, a, v, ws, rfl, hv, hholds⟩, rfl⟩
    cases ht with
    | @item _ _ _ d _ t hd hv' ht =>
        obtain ⟨-, rfl⟩ := hv'
        refine ⟨a, t ++ rest, ?_, (hk a).mpr ⟨t, ⟨ws, ht, hholds⟩, rfl⟩⟩
        rw [List.append_assoc]
        exact hread.complete ⟨d, _, hd, hv, rfl⟩ (ht.ended rest)

end ProcessLaunch.Json
