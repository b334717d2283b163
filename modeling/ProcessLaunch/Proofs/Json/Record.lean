import Mathlib.Data.List.Nodup
import ProcessLaunch.Proofs.Message.Format
import ProcessLaunch.Proofs.Table

/-!
# Records

What is read from the members of an object into the fields of a record, whichever they are, and what
is read into a table.  Of a field only the values at its name count, so neither the order in which
the names stand nor what stands at other names makes a difference.
-/

namespace ProcessLaunch.Json

open Reader IncomingMessage

/-! ## 1. Objects and arrays are values -/

/-- Items behind the first are all that may stand before the closing character. -/
theorem exists_behind_of_listed {α : Type} {frame : Frame} {writes : α → List Char → Prop}
    (hpart : ∀ {a b s}, Spaces b → writes a s → Writes (.part frame) (b ++ s)) {as : List α}
    {t : List Char} (h : Listed frame writes false as t) :
    ∃ u, Writes (.behind frame) u ∧ t = u ++ [frame.close] := by
  generalize hfirst : false = first at h
  induction h with
  | @closed _ b hb => exact ⟨b, .last hb, rfl⟩
  | @item _ a as b s t hb ha _ ih =>
      subst hfirst
      obtain ⟨b, c, hb, hc, rfl⟩ := hb
      obtain ⟨u, hu, rfl⟩ := ih rfl
      exact ⟨_, .more hb (hpart hc ha) hu, by simp⟩

/-- Items between the brackets of a frame are a value. -/
theorem writes_of_listed_items {α : Type} {frame : Frame} {writes : α → List Char → Prop}
    (hpart : ∀ {a b s}, Spaces b → writes a s → Writes (.part frame) (b ++ s)) {as : List α}
    {t : List Char} (h : Listed frame writes true as t) : Writes .value (frame.opening :: t) := by
  cases h with
  | closed hb => exact .empty hb
  | item hb ha ht =>
      obtain ⟨u, hu, rfl⟩ := exists_behind_of_listed @hpart ht
      rw [← List.append_assoc]
      exact .filled (hpart hb ha) hu

theorem WritesObject.writes {ms : List (String × List Char)} {s : List Char}
    (h : WritesObject ms s) : Writes .value s := by
  obtain ⟨t, ht, rfl⟩ := h
  show Writes .value (Frame.object.opening :: t)
  refine writes_of_listed_items ?_ ht
  rintro m b _ hb ⟨k, a, c, hk, ha, hc, hv, rfl⟩
  simpa using Writes.member hb hk.quotation ha hc hv

theorem WritesArray.writes {vs : List (List Char)} {s : List Char} (h : WritesArray vs s) :
    Writes .value s := by
  obtain ⟨t, ht, rfl⟩ := h
  show Writes .value (Frame.array.opening :: t)
  refine writes_of_listed_items ?_ ht
  rintro v b _ hb ⟨hv, rfl⟩
  exact .element hb hv

/-! ## 2. Fields -/

structure Slot (φ : Type) where
  name : String
  Value : Type
  writes : Value → List Char → Prop
  get : φ → Option Value
  set : φ → Value → φ

namespace Slot

variable {φ : Type} (slot : Slot φ)

def Fills (fields : φ) (v : List Char) (behind : φ) : Prop :=
  slot.get fields = none ∧ ∃ a, slot.set fields a = behind ∧ slot.writes a v

def Gathers (fields : φ) (ms : List (String × List Char)) (behind : φ) : Prop :=
  IncomingMessage.Gathers slot.writes (slot.get fields) (valuesAt slot.name ms) (slot.get behind)

variable {slot}

/-- A field is filled by the one value at its name. -/
theorem gathers_some_iff {fields behind : φ} {ms : List (String × List Char)} {a : slot.Value}
    (hold : slot.get fields = none) (hnew : slot.get behind = some a) :
    slot.Gathers fields ms behind ↔ Once slot.writes a (valuesAt slot.name ms) := by
  rw [Gathers, hold, hnew]
  exact Fields.gathers_none_iff

end Slot

/-- The fields of a record.  They have names of their own, are kept apart from each other, and there
is nothing else in the record. -/
structure Layout (φ : Type) where
  slots : List (Slot φ)
  nodup_names : (slots.map Slot.name).Nodup
  get_set_self : ∀ slot ∈ slots, ∀ fields a, slot.get (slot.set fields a) = some a
  get_set_of_ne : ∀ slot ∈ slots, ∀ other ∈ slots, slot.name ≠ other.name →
    ∀ fields a, other.get (slot.set fields a) = other.get fields
  ext : ∀ fields fields', (∀ slot ∈ slots, slot.get fields' = slot.get fields) → fields' = fields

namespace Layout

variable {φ : Type} {layout : Layout φ}

def names (layout : Layout φ) : List String := layout.slots.map Slot.name

def Adds (layout : Layout φ) (fields : φ) (m : String × List Char) (behind : φ) : Prop :=
  (∃ slot ∈ layout.slots, slot.name = m.1 ∧ slot.Fills fields m.2 behind) ∨
    m.1 ∉ layout.names ∧ behind = fields ∧ Writes .value m.2

/-- Each field is read from the values at its name, and other members are skipped. -/
structure ReadBy (layout : Layout φ) (member : φ → String → Member φ) : Prop where
  known : ∀ slot ∈ layout.slots, ∀ fields,
    (member fields slot.name).Reads fields (slot.Fills fields)
  unknown : ∀ fields name, name ∉ layout.names → member fields name = .skipped
  writes : ∀ slot ∈ layout.slots, ∀ a v, slot.writes a v → Writes .value v

/-- At the name of a field a member fills that field. -/
theorem adds_of_mem {slot : Slot φ} (hslot : slot ∈ layout.slots) {fields behind : φ}
    {v : List Char} : layout.Adds fields (slot.name, v) behind ↔ slot.Fills fields v behind := by
  constructor
  · rintro (⟨other, hother, hname, hfills⟩ | ⟨hnot, -⟩)
    · rwa [← List.inj_on_of_nodup_map layout.nodup_names hother hslot hname]
    · exact absurd (List.mem_map_of_mem hslot) hnot
  · exact fun hfills => .inl ⟨slot, hslot, rfl, hfills⟩

/-- At any other name a member has a value and changes nothing. -/
theorem adds_of_not_mem {fields behind : φ} {name : String} {v : List Char}
    (h : name ∉ layout.names) :
    layout.Adds fields (name, v) behind ↔ behind = fields ∧ Writes .value v := by
  constructor
  · rintro (⟨slot, hslot, rfl, -⟩ | ⟨-, hsame⟩)
    · exact absurd (List.mem_map_of_mem hslot) h
    · exact hsame
  · exact fun hsame => .inr ⟨h, hsame⟩

variable {member : φ → String → Member φ}

/-- A reader of members reads for every name what the layout says of it. -/
theorem ReadBy.reads_member (h : layout.ReadBy member) (fields : φ) (name : String) :
    (member fields name).Reads fields fun v => layout.Adds fields (name, v) := by
  by_cases hname : name ∈ layout.names
  · obtain ⟨slot, hslot, rfl⟩ := List.mem_map.mp hname
    have hadds : (fun v => layout.Adds fields (slot.name, v)) = slot.Fills fields := by
      funext v behind
      exact propext (adds_of_mem hslot)
    rw [hadds]
    exact h.known slot hslot fields
  · have hadds : (fun v => layout.Adds fields (name, v)) =
        fun v behind => behind = fields ∧ Writes .value v := by
      funext v behind
      exact propext (adds_of_not_mem hname)
    rw [h.unknown fields name hname, hadds]
    exact Member.reads_skipped fields

theorem ReadBy.writes_of_adds (h : layout.ReadBy member) {fields behind : φ}
    {m : String × List Char} (hm : layout.Adds fields m behind) : Writes .value m.2 := by
  obtain ⟨slot, hslot, -, -, a, -, ha⟩ | ⟨-, -, hv⟩ := hm
  · exact h.writes slot hslot a m.2 ha
  · exact hv

def Gathered (layout : Layout φ) (fields : φ) (ms : List (String × List Char)) (behind : φ) :
    Prop :=
  ∀ slot ∈ layout.slots, slot.Gathers fields ms behind

theorem gathered_nil {fields behind : φ} :
    layout.Gathered fields [] behind ↔ behind = fields := by
  constructor
  · intro h
    refine layout.ext fields behind fun slot hslot => ?_
    obtain ⟨-, hsame⟩ | ⟨-, a, -, v, hv, -⟩ := h slot hslot
    · exact hsame
    · cases hv
  · rintro rfl slot -
    exact .inl ⟨rfl, rfl⟩

/-- Fields are gathered from one member after the other. -/
theorem gathered_cons {fields behind : φ} {m : String × List Char}
    {ms : List (String × List Char)} (hm : Writes .value m.2) :
    layout.Gathered fields (m :: ms) behind ↔
      ∃ between, layout.Adds fields m between ∧ layout.Gathered between ms behind := by
  obtain ⟨name, v⟩ := m
  by_cases hname : name ∈ layout.names
  · obtain ⟨slot, hslot, rfl⟩ := List.mem_map.mp hname
    -- what is gathered into the other fields does not change with this one
    have hothers {other : Slot φ} (hother : other ∈ layout.slots) (hne : slot.name ≠ other.name)
        (a : slot.Value) :
        other.Gathers fields ((slot.name, v) :: ms) behind ↔
          other.Gathers (slot.set fields a) ms behind := by
      rw [Slot.Gathers, Slot.Gathers, valuesAt_cons_of_ne hne,
        layout.get_set_of_ne slot hslot other hother hne]
    have hself : slot.Gathers fields ((slot.name, v) :: ms) behind ↔
        slot.get fields = none ∧
          ∃ a, slot.writes a v ∧ slot.Gathers (slot.set fields a) ms behind := by
      simp only [Slot.Gathers, valuesAt_cons_self, gathers_cons,
        layout.get_set_self slot hslot fields]
    simp only [adds_of_mem hslot]
    constructor
    · intro h
      obtain ⟨hnone, a, ha, hgathers⟩ := hself.mp (h slot hslot)
      refine ⟨slot.set fields a, ⟨hnone, a, rfl, ha⟩, fun other hother => ?_⟩
      by_cases hne : slot.name = other.name
      · rwa [← List.inj_on_of_nodup_map layout.nodup_names hslot hother hne]
      · exact (hothers hother hne a).mp (h other hother)
    · rintro ⟨_, ⟨hnone, a, rfl, ha⟩, h⟩ other hother
      by_cases hne : slot.name = other.name
      · rw [← List.inj_on_of_nodup_map layout.nodup_names hslot hother hne]
        exact hself.mpr ⟨hnone, a, ha, h slot hslot⟩
      · exact (hothers hother hne a).mpr (h other hother)
  · have hskipped {slot : Slot φ} (hslot : slot ∈ layout.slots) :
        slot.Gathers fields ((name, v) :: ms) behind ↔ slot.Gathers fields ms behind := by
      have hne : name ≠ slot.name := by
        rintro rfl
        exact hname (List.mem_map_of_mem hslot)
      rw [Slot.Gathers, Slot.Gathers, valuesAt_cons_of_ne hne]
    simp only [adds_of_not_mem hname]
    constructor
    · exact fun h => ⟨fields, ⟨rfl, hm⟩, fun slot hslot => (hskipped hslot).mp (h slot hslot)⟩
    · rintro ⟨_, ⟨rfl, -⟩, h⟩ slot hslot
      exact (hskipped hslot).mpr (h slot hslot)

/-- Adding members one by one is gathering for each field the values at its name. -/
theorem addsAll_iff {fields behind : φ} {ms : List (String × List Char)}
    (hms : ∀ m ∈ ms, Writes .value m.2) :
    AddsAll layout.Adds fields ms behind ↔ layout.Gathered fields ms behind := by
  induction ms generalizing fields with
  | nil =>
      rw [gathered_nil]
      constructor
      · rintro ⟨⟩
        rfl
      · rintro rfl
        exact .nil
  | cons m ms ih =>
      -- fields are kept apart, so what one member fills does not show in the others
      have hmore (between : φ) :
          AddsAll layout.Adds between ms behind ↔ layout.Gathered between ms behind :=
        ih fun m hm => hms m (List.mem_cons_of_mem _ hm)
      rw [gathered_cons (hms m List.mem_cons_self)]
      constructor
      · rintro ⟨⟩
        rename_i between hadd hall
        exact ⟨between, hadd, (hmore between).mp hall⟩
      · rintro ⟨between, hadd, hall⟩
        exact .cons hadd ((hmore between).mpr hall)

end Layout

/-! ## 3. Objects of fields -/

def Collects {α : Type} (r : Reader α) (holds : α → List (String × List Char) → Prop) : Prop :=
  r.Takes fun a t => ∃ ms, Listed .object WritesMember true ms t ∧ holds a ms

/-- What is read of an object is what its members give for each field. -/
theorem Layout.ReadBy.collects {φ : Type} {layout : Layout φ} {member : φ → String → Member φ}
    (h : layout.ReadBy member) (fields : φ) :
    Collects (members member fields) fun behind ms => layout.Gathered fields ms behind := by
  intro s behind rest
  have hmembers : (members member fields).run s = .ok (behind, rest) ↔ _ :=
    takeMembers_eq_ok h.reads_member h.writes_of_adds
  rw [hmembers]
  constructor
  · rintro ⟨ms, t, ht, hadds, rfl⟩
    exact ⟨t, ⟨ms, ht, (Layout.addsAll_iff (writes_of_listed ht)).mp hadds⟩, rfl⟩
  · rintro ⟨t, ⟨ms, ht, hgathered⟩, rfl⟩
    exact ⟨ms, t, ht, (Layout.addsAll_iff (writes_of_listed ht)).mpr hgathered, rfl⟩

/-- What the fields are made into tells of the members too, and takes nothing more. -/
theorem Collects.bind {α β : Type} {r : Reader α} {next : α → Reader β}
    {holds : α → List (String × List Char) → Prop} {made : β → List (String × List Char) → Prop}
    (h : Collects r holds)
    (hnext : ∀ b ms s rest, (∃ a, holds a ms ∧ (next a).run s = .ok (b, rest)) ↔
      made b ms ∧ s = rest) : Collects (r >>= next) made := by
  intro s b rest
  rw [run_bind_eq_ok]
  constructor
  · rintro ⟨a, more, ha, hb⟩
    obtain ⟨t, ⟨ms, ht, hholds⟩, rfl⟩ := h.mp ha
    obtain ⟨hmade, rfl⟩ := (hnext b ms more rest).mp ⟨a, hholds, hb⟩
    exact ⟨t, ⟨ms, ht, hmade⟩, rfl⟩
  · rintro ⟨t, ⟨ms, ht, hmade⟩, rfl⟩
    obtain ⟨a, hholds, hb⟩ := (hnext b ms rest rest).mpr ⟨hmade, rfl⟩
    exact ⟨a, rest, h.mpr ⟨t, ⟨ms, ht, hholds⟩, rfl⟩, hb⟩

/-- There is one value or null, or nothing at all, which is worth as much as null. -/
def MayHave {α : Type} (writes : α → List Char → Prop) (a : Option α) (vs : List (List Char)) :
    Prop :=
  vs = [] ∧ a = none ∨ Once (WritesOptional writes) a vs

/-- A field that may be null or missing is worth the same in both cases. -/
theorem exists_gathers_join_iff {α : Type} {writes : α → List Char → Prop} {a : Option α}
    {vs : List (List Char)} :
    (∃ new, Gathers (WritesOptional writes) none vs new ∧ new.join = a) ↔ MayHave writes a vs := by
  constructor
  · rintro ⟨new, ⟨hvs, rfl⟩ | ⟨-, b, rfl, hvs⟩, rfl⟩
    · exact .inl ⟨hvs, rfl⟩
    · exact .inr hvs
  · rintro (⟨hvs, rfl⟩ | hvs)
    · exact ⟨none, .inl ⟨hvs, rfl⟩, rfl⟩
    · exact ⟨some a, Fields.gathers_none_iff.mpr hvs, rfl⟩

/-! ## 4. Objects or arrays -/

/-- The last element of an array may be left out. -/
theorem lists_last_element {α β : Type} {value : ValueReader α} {writes : α → List Char → Prop}
    (h : value.Reads writes) (hvalue : ∀ {a v}, writes a v → Writes .value v)
    {k : Option α → Reader β} {without : β} {made : α → β} (hnone : k none = return without)
    (hsome : ∀ a, k (some a) = do endOfArray; return made a) :
    Lists (do k (← element? false value)) false fun b vs =>
      vs = [] ∧ b = without ∨ ∃ a v, vs = [v] ∧ writes a v ∧ b = made a := by
  have hread := reads_element? h @hvalue false
  intro s b rest
  rw [run_bind_eq_ok]
  -- the array ends here, or has its last element and then ends
  constructor
  · rintro ⟨found, more, hfound, hb⟩
    obtain ⟨_, hitem, rfl⟩ := hread.sound hfound
    cases found with
    | none =>
        rw [hnone] at hb
        obtain ⟨rfl, rfl⟩ := run_pure_eq_ok.mp hb
        obtain ⟨d, hd, rfl⟩ := hitem
        exact ⟨_, ⟨[], .closed hd, .inl ⟨rfl, rfl⟩⟩, rfl⟩
    | some a =>
        rw [hsome] at hb
        obtain ⟨d, v, hd, hv, rfl⟩ := hitem
        obtain ⟨t, ⟨_, ht, rfl, rfl⟩, rfl⟩ := (lists_end (made a)).mp hb
        exact ⟨d ++ v ++ t, ⟨[v], .item hd ⟨hvalue hv, rfl⟩ ht, .inr ⟨a, v, rfl, hv, rfl⟩⟩, by simp⟩
  · rintro ⟨t, ⟨_, ht, ⟨rfl, rfl⟩ | ⟨a, v, rfl, hv, rfl⟩⟩, rfl⟩
    · cases ht with
      | closed hd =>
          refine ⟨none, rest, ?_, by rw [hnone, run_pure]⟩
          exact run_spaces_next_eq_ok.mpr ⟨_, ']', rest, hd, by decide, by simp [Frame.close], rfl⟩
    · cases ht with
      | @item _ _ _ d _ t hd hv' ht =>
          obtain ⟨-, rfl⟩ := hv'
          have hend := (lists_end (made a)).mpr ⟨t, ⟨[], ht, rfl, rfl⟩, (rfl : t ++ rest = _)⟩
          refine ⟨some a, t ++ rest, ?_, hsome a ▸ hend⟩
          rw [List.append_assoc]
          exact hread.complete (a := some a) ⟨d, _, hd, hv, rfl⟩ (ht.ended rest)

def WritesRecord {α : Type} (hasMembers : α → List (String × List Char) → Prop)
    (hasElements : α → List (List Char) → Prop) (a : α) (s : List Char) : Prop :=
  (∃ ms, WritesObject ms s ∧ hasMembers a ms) ∨ ∃ vs, WritesArray vs s ∧ hasElements a vs

section

variable {α : Type} {hasMembers : α → List (String × List Char) → Prop}
  {hasElements : α → List (List Char) → Prop} {a : α} {s : List Char}

theorem WritesRecord.writes (h : WritesRecord hasMembers hasElements a s) : Writes .value s := by
  obtain ⟨ms, hms, -⟩ | ⟨vs, hvs, -⟩ := h
  · exact hms.writes
  · exact hvs.writes

theorem WritesObject.not_writesArray {ms : List (String × List Char)} {vs : List (List Char)}
    (h : WritesObject ms s) : ¬WritesArray vs s := by
  rintro ⟨t', -, rfl⟩
  obtain ⟨t, -, ht⟩ := h
  cases (List.cons.inj ht).1

theorem WritesObject.head?_ne {ms : List (String × List Char)} (h : WritesObject ms s) :
    s.head? ≠ some 'n' := by
  obtain ⟨t, -, rfl⟩ := h
  exact fun hbrace => absurd (Option.some.inj hbrace) (by decide)

theorem writesRecord_object {ms : List (String × List Char)} (h : WritesObject ms s) :
    WritesRecord hasMembers hasElements a s ↔ hasMembers a ms := by
  constructor
  · rintro (⟨ms', h', hms⟩ | ⟨vs, hvs, -⟩)
    · rwa [h.unique h' (rfl : s ++ [] = s ++ [])]
    · exact absurd hvs h.not_writesArray
  · exact fun hms => .inl ⟨ms, h, hms⟩

/-- A record is read from an object or from an array, by the first character. -/
theorem reads_recordOf {object array : Reader α} (hobject : Collects object hasMembers)
    (harray : Lists array true hasElements) (expected : String) :
    (recordOf expected object array).Reads (WritesRecord hasMembers hasElements) where
  reads := {
    sound := by
      intro s a rest h
      simp only [run_bind_eq_ok, run_next_eq_ok, recordOf] at h
      obtain ⟨c, s, rfl, h⟩ := h
      split at h
      next hc =>
        obtain ⟨t, ⟨ms, ht, hms⟩, rfl⟩ := hobject.mp h
        exact ⟨'\x7b' :: t, .inl ⟨ms, ⟨t, ht, rfl⟩, hms⟩, by rw [hc, List.cons_append]⟩
      next =>
        split at h
        next hc =>
          obtain ⟨t, ⟨vs, ht, hvs⟩, rfl⟩ := harray.mp h
          exact ⟨'[' :: t, .inr ⟨vs, ⟨t, ht, rfl⟩, hvs⟩, by rw [hc, List.cons_append]⟩
        next => exact absurd h run_refuse_ne_ok
    complete := by
      rintro a _ (⟨ms, ⟨t, ht, rfl⟩, hms⟩ | ⟨vs, ⟨t, ht, rfl⟩, hvs⟩) rest -
      · exact hobject.run_append ⟨ms, ht, hms⟩ rest
      · exact harray.run_append ⟨vs, ht, hvs⟩ rest }
  unspaced := fun h => h.writes.begun.unspaced

end

/-! ## 5. Tables -/

/-- An object as a table.  At each name the table has the last of the values there. -/
def WritesTable {α : Type} (writes : α → List Char → Prop) (table : Table α) (s : List Char) :
    Prop :=
  ∃ ms, WritesObject ms s ∧
    ∀ name, ∃ as, List.Forall₂ writes as (valuesAt name ms) ∧ table.get? name = as.getLast?

theorem WritesTable.writes {α : Type} {writes : α → List Char → Prop} {table : Table α}
    {s : List Char} (h : WritesTable writes table s) : Writes .value s := by
  obtain ⟨ms, hms, -⟩ := h
  exact hms.writes

section

variable {α : Type} {value : ValueReader α} {writes : α → List Char → Prop}

def Inserts (writes : α → List Char → Prop) (table : Table α) (m : String × List Char)
    (behind : Table α) : Prop :=
  ∃ a, table.insert m.1 a = behind ∧ writes a m.2

/-- Behind several members a table has the last value of each name, or else what it had. -/
theorem addsAll_inserts_iff {table behind : Table α} {ms : List (String × List Char)} :
    AddsAll (Inserts writes) table ms behind ↔
      ∀ name, ∃ as, List.Forall₂ writes as (valuesAt name ms) ∧
        behind.get? name = as.getLast?.or (table.get? name) := by
  induction ms generalizing table with
  | nil =>
      constructor
      · rintro ⟨⟩ name
        exact ⟨[], .nil, rfl⟩
      · intro h
        obtain rfl : behind = table := by
          refine Table.ext_get? fun name => ?_
          obtain ⟨_, ⟨⟩, hname⟩ := h name
          exact hname
        exact .nil
  | cons m ms ih =>
      obtain ⟨key, v⟩ := m
      constructor
      · rintro ⟨⟩ name
        rename_i between hinserts hall
        obtain ⟨a, rfl, ha⟩ := hinserts
        obtain ⟨as, has, hname⟩ := ih.mp hall name
        -- a member counts at its own name only, and there less than those behind it
        by_cases hkey : key = name
        · subst hkey
          refine ⟨a :: as, ?_, ?_⟩
          · rw [valuesAt_cons_self]
            exact .cons ha has
          · rw [hname, Table.get?_insert_self, List.getLast?_cons]
            cases as.getLast? <;> rfl
        · rw [Table.get?_insert_of_ne _ _ hkey] at hname
          exact ⟨as, by rwa [valuesAt_cons_of_ne hkey], hname⟩
      · intro h
        obtain ⟨_, has, hlast⟩ := h key
        rw [valuesAt_cons_self] at has
        obtain ⟨a, as, ha, hmore, rfl⟩ := List.forall₂_cons_right_iff.mp has
        refine .cons ⟨a, rfl, ha⟩ (ih.mpr fun name => ?_)
        by_cases hkey : key = name
        · subst hkey
          refine ⟨as, hmore, ?_⟩
          rw [hlast, Table.get?_insert_self, List.getLast?_cons]
          cases as.getLast? <;> rfl
        · obtain ⟨bs, hbs, hname⟩ := h name
          rw [valuesAt_cons_of_ne hkey] at hbs
          exact ⟨bs, hbs, by rw [hname, Table.get?_insert_of_ne _ _ hkey]⟩

/-- A table collects at each name the last of the values there. -/
theorem collects_entries (h : value.Reads writes)
    (hvalue : ∀ {a v}, writes a v → Writes .value v) :
    Collects (members (fun (entries : Table α) key => .read (value.map (entries.insert key))) ∅)
      fun table ms => ∀ name, ∃ as, List.Forall₂ writes as (valuesAt name ms) ∧
        table.get? name = as.getLast? := by
  have hreads (entries : Table α) (key : String) :
      (Member.read (value.map (entries.insert key))).Reads entries
        fun v => Inserts writes entries (key, v) :=
    Member.reads_read (h.map (entries.insert key)) entries
  -- every member has a value, whatever its name is
  have hwrites {entries behind : Table α} {m : String × List Char} :
      Inserts writes entries m behind → Writes .value m.2 := by
    rintro ⟨a, -, ha⟩
    exact hvalue ha
  have hempty (ms : List (String × List Char)) (table : Table α) :
      AddsAll (Inserts writes) ∅ ms table ↔
        ∀ name, ∃ as, List.Forall₂ writes as (valuesAt name ms) ∧
          table.get? name = as.getLast? := by
    simp only [addsAll_inserts_iff, Table.get?_empty, Option.or_none]
  intro s table rest
  have hmembers : takeMembers (fun (entries : Table α) key =>
      .read (value.map (entries.insert key))) true ∅ s = .ok (table, rest) ↔ _ :=
    takeMembers_eq_ok hreads hwrites
  refine hmembers.trans ?_
  constructor
  · rintro ⟨ms, t, ht, hadds, rfl⟩
    exact ⟨t, ⟨ms, ht, (hempty ms table).mp hadds⟩, rfl⟩
  · rintro ⟨t, ⟨ms, ht, hlast⟩, rfl⟩
    exact ⟨ms, t, ht, (hempty ms table).mpr hlast, rfl⟩

theorem reads_table (h : value.Reads writes) (hvalue : ∀ {a v}, writes a v → Writes .value v) :
    (table value).Reads (WritesTable writes) where
  reads := {
    sound := by
      intro s entries rest hrun
      simp only [run_bind_eq_ok, run_next_eq_ok, table] at hrun
      obtain ⟨c, s, rfl, hrun⟩ := hrun
      split at hrun
      next hc =>
        obtain ⟨t, ⟨ms, ht, hlast⟩, rfl⟩ := (collects_entries h @hvalue).mp hrun
        exact ⟨'\x7b' :: t, ⟨ms, ⟨t, ht, rfl⟩, hlast⟩, by rw [hc, List.cons_append]⟩
      next => exact absurd hrun run_refuse_ne_ok
    complete := by
      rintro entries _ ⟨ms, ⟨t, ht, rfl⟩, hlast⟩ rest -
      exact (collects_entries h @hvalue).run_append ⟨ms, ht, hlast⟩ rest }
  unspaced := fun h => h.writes.begun.unspaced

end

/-! ## 6. Members in another order -/

/-- The same text, or objects of which the members are alike. -/
def Rearranged (alike : List (String × List Char) → List (String × List Char) → Prop)
    (s s' : List Char) : Prop :=
  s = s' ∨ ∃ ms ms', WritesObject ms s ∧ WritesObject ms' s' ∧ alike ms ms'

section

variable {α : Type} {alike : List (String × List Char) → List (String × List Char) → Prop}
  {s s' : List Char}

theorem Rearranged.symm (h : Rearranged alike s s')
    (hsymm : ∀ {ms ms'}, alike ms ms' → alike ms' ms) : Rearranged alike s' s := by
  obtain rfl | ⟨ms, ms', hms, hms', halike⟩ := h
  · exact .inl rfl
  · exact .inr ⟨ms', ms, hms', hms, hsymm halike⟩

theorem Rearranged.writes (h : Rearranged alike s s') (hs : Writes .value s) :
    Writes .value s' := by
  obtain rfl | ⟨ms, ms', -, hms', -⟩ := h
  · exact hs
  · exact hms'.writes

/-- A record stays the same as long as its members tell the same. -/
theorem WritesRecord.rearranged {hasMembers : α → List (String × List Char) → Prop}
    {hasElements : α → List (List Char) → Prop} {a : α} (h : Rearranged alike s s')
    (hmembers : ∀ {ms ms'}, alike ms ms' → hasMembers a ms → hasMembers a ms')
    (hs : WritesRecord hasMembers hasElements a s) : WritesRecord hasMembers hasElements a s' := by
  obtain rfl | ⟨ms, ms', hms, hms', halike⟩ := h
  · exact hs
  · exact (writesRecord_object hms').mpr (hmembers halike ((writesRecord_object hms).mp hs))

theorem forall₂_writes_of_same {writes : α → List Char → Prop}
    {same : List Char → List Char → Prop}
    (hsame : ∀ a v v', same v v' → writes a v → writes a v') {as : List α}
    {vs vs' : List (List Char)} (h : List.Forall₂ writes as vs) (h' : List.Forall₂ same vs vs') :
    List.Forall₂ writes as vs' := by
  induction h generalizing vs' with
  | nil =>
      cases h'
      exact .nil
  | cons ha _ ih =>
      cases h' with
      | cons hv hmore => exact .cons (hsame _ _ _ hv ha) (ih hmore)

/-- A table does not depend on the order of its members, as long as those of a name keep theirs. -/
theorem WritesTable.rearranged {writes : α → List Char → Prop}
    {same : List Char → List Char → Prop} {table : Table α}
    (h : Rearranged (fun ms ms' => ∀ name, List.Forall₂ same (valuesAt name ms) (valuesAt name ms'))
      s s') (hsame : ∀ a v v', same v v' → writes a v → writes a v')
    (hs : WritesTable writes table s) : WritesTable writes table s' := by
  obtain rfl | ⟨ms, ms', hms, hms', halike⟩ := h
  · exact hs
  obtain ⟨ms'', hms'', hlast⟩ := hs
  obtain rfl := hms.unique hms'' (rfl : s ++ [] = s ++ [])
  refine ⟨ms', hms', fun name => ?_⟩
  obtain ⟨as, has, hname⟩ := hlast name
  exact ⟨as, forall₂_writes_of_same hsame has (halike name), hname⟩

theorem WritesOptional.rearranged {writes : α → List Char → Prop} {a : Option α}
    (h : Rearranged alike s s') (hwrites : ∀ {a}, writes a s → writes a s')
    (hs : WritesOptional writes a s) : WritesOptional writes a s' := by
  cases a with
  | none =>
      obtain rfl | ⟨ms, -, hms, -⟩ := h
      · exact hs
      · -- null is no object
        obtain rfl : s = "null".toList := hs
        exact absurd rfl hms.head?_ne
  | some a => exact hwrites hs

theorem MayHave.of_forall₂ {writes : α → List Char → Prop} {same : List Char → List Char → Prop}
    {a : Option α} {vs vs' : List (List Char)}
    (hsame : ∀ {v v'}, same v v' → WritesOptional writes a v → WritesOptional writes a v')
    (h : List.Forall₂ same vs vs') (hvs : MayHave writes a vs) : MayHave writes a vs' := by
  obtain ⟨rfl, hnone⟩ | ⟨v, rfl, hv⟩ := hvs
  · cases h
    exact .inl ⟨rfl, hnone⟩
  · obtain ⟨v', _, hv', hnil, rfl⟩ := List.forall₂_cons_left_iff.mp h
    cases hnil
    exact .inr ⟨v', rfl, hsame hv' hv⟩

end

/-! ## 7. Texts -/

/-- What value stands in a text can be seen from it. -/
theorem Padded.unique {s s' : List Char} {text : String} (hs : Writes .value s)
    (hs' : Writes .value s') (h : Padded s text) (h' : Padded s' text) : s = s' := by
  obtain ⟨b, a, hb, ha, htext⟩ := h
  obtain ⟨b', a', hb', ha', htext'⟩ := h'
  rw [htext, List.append_assoc, List.append_assoc] at htext'
  have hbehind := eq_of_spaces_append hb hb' (hs.begun.append a).unspaced
    (hs'.begun.append a').unspaced htext'
  have hended {a : List Char} (ha : Spaces a) : Ended a := List.append_nil a ▸ ended_nil.append ha
  exact (delimited_writes hs hs' (hended ha) (hended ha') hbehind).1

/-- A text is read exactly if it is a value with space around it. -/
theorem readAll_spaced_eq_ok {α : Type} {value : ValueReader α} {writes : α → List Char → Prop}
    (h : value.Reads writes) {text : String} {a : α} :
    value.spaced.readAll text.toList = .ok a ↔ ∃ s, writes a s ∧ Padded s text := by
  rw [readAll_eq_ok]
  constructor
  · rintro ⟨rest, hrun, hrest⟩
    obtain ⟨_, ⟨b, s, hb, hs, rfl⟩, htext⟩ := h.spaced.sound hrun
    exact ⟨s, hs, b, rest, hb, hrest, htext⟩
  · rintro ⟨s, hs, b, rest, hb, hrest, htext⟩
    have hended : Ended rest := List.append_nil rest ▸ ended_nil.append hrest
    refine ⟨rest, ?_, hrest⟩
    rw [htext]
    exact h.spaced.complete ⟨b, s, hb, hs, rfl⟩ hended

end ProcessLaunch.Json
