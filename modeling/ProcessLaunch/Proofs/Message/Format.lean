import ProcessLaunch.Message
import ProcessLaunch.Proofs.Json.Object

/-!
# The format of a message

Which texts describe a message: objects with the values of its fields among their members, and
arrays of these values.  Exactly such a text is read, and as the message that it describes.
-/

namespace ProcessLaunch.IncomingMessage

open Json Json.Reader

/-! ## 1. The format -/

def fieldNames : List String := ["fileDataSeq", "channelRef", "outputChannelCode", "fileS3Path"]

def valuesAt (key : String) (ms : List (String × List Char)) : List (List Char) :=
  (ms.filter fun m => m.1 = key).map Prod.snd

def Once {α : Type} (writes : α → List Char → Prop) (a : α) (vs : List (List Char)) : Prop :=
  ∃ v, vs = [v] ∧ writes a v

/-- The members of an object have the values of a message.  The sequence number may be missing, and
no key of a field stands twice. -/
structure HasMembers (m : IncomingMessage) (ms : List (String × List Char)) : Prop where
  fileDataSeq : valuesAt "fileDataSeq" ms = [] ∧ m.fileDataSeq = none ∨
    Once (WritesOptional WritesInteger64) m.fileDataSeq (valuesAt "fileDataSeq" ms)
  channelRef : Once WritesString m.channelRef (valuesAt "channelRef" ms)
  outputChannelCode : Once WritesString m.outputChannelCode (valuesAt "outputChannelCode" ms)
  fileS3Path : Once WritesString m.fileS3Path (valuesAt "fileS3Path" ms)

def HasElements (m : IncomingMessage) (vs : List (List Char)) : Prop :=
  ∃ v₀ v₁ v₂ v₃, vs = [v₀, v₁, v₂, v₃] ∧ WritesOptional WritesInteger64 m.fileDataSeq v₀ ∧
    WritesString m.channelRef v₁ ∧ WritesString m.outputChannelCode v₂ ∧
    WritesString m.fileS3Path v₃

/-! ## 2. Fields -/

/-- What is read for one field: its old value if nothing is written, or else the one value that is
written where there was none. -/
def Gathers {α : Type} (writes : α → List Char → Prop) (old : Option α) (vs : List (List Char))
    (new : Option α) : Prop :=
  vs = [] ∧ new = old ∨ old = none ∧ ∃ a, new = some a ∧ Once writes a vs

/-- A field takes the first value if it is empty, and refuses a second one. -/
theorem gathers_cons {α : Type} {writes : α → List Char → Prop} {old new : Option α}
    {v : List Char} {vs : List (List Char)} :
    Gathers writes old (v :: vs) new ↔
      old = none ∧ ∃ a, writes a v ∧ Gathers writes (some a) vs new := by
  constructor
  · rintro (⟨hvs, -⟩ | ⟨hold, a, hnew, w, hw, ha⟩)
    · cases hvs
    · cases hw
      exact ⟨hold, a, ha, .inl ⟨rfl, hnew⟩⟩
  · rintro ⟨hold, a, ha, ⟨rfl, hnew⟩ | ⟨hnone, -⟩⟩
    · exact .inr ⟨hold, a, hnew, v, rfl, ha⟩
    · cases hnone

theorem valuesAt_cons_self (key : String) (v : List Char) (ms : List (String × List Char)) :
    valuesAt key ((key, v) :: ms) = v :: valuesAt key ms := by
  simp [valuesAt]

theorem valuesAt_cons_of_ne {key key' : String} (h : key' ≠ key) (v : List Char)
    (ms : List (String × List Char)) : valuesAt key ((key', v) :: ms) = valuesAt key ms := by
  simp [valuesAt, h]

namespace Fields

def Adds (fields : Fields) (m : String × List Char) (behind : Fields) : Prop :=
  match m.1 with
  | "fileDataSeq" =>
      fields.fileDataSeq = none ∧ ∃ n, { fields with fileDataSeq := some n } = behind ∧
        WritesOptional WritesInteger64 n m.2
  | "channelRef" =>
      fields.channelRef = none ∧ ∃ s, { fields with channelRef := some s } = behind ∧
        WritesString s m.2
  | "outputChannelCode" =>
      fields.outputChannelCode = none ∧
        ∃ s, { fields with outputChannelCode := some s } = behind ∧ WritesString s m.2
  | "fileS3Path" =>
      fields.fileS3Path = none ∧ ∃ s, { fields with fileS3Path := some s } = behind ∧
        WritesString s m.2
  | _ => behind = fields ∧ Writes .value m.2

/-- A member is read where its field is still empty. -/
theorem reads_once {α φ : Type} {value : ValueReader φ} {writes : φ → List Char → Prop}
    (h : value.Reads writes) (name : String) (old : Option α) (fields : φ) :
    (once name old value).Reads fields fun v a => old = none ∧ writes a v := by
  cases old with
  | none => simpa [once] using Member.reads_read h fields
  | some a => simpa [once] using Member.reads_refused _ fields

theorem member_of_not_mem {fields : Fields} {key : String} (h : key ∉ fieldNames) :
    fields.member key = .skipped := by
  simp only [fieldNames, List.mem_cons, List.not_mem_nil, or_false, not_or] at h
  obtain ⟨h₀, h₁, h₂, h₃⟩ := h
  unfold member
  split <;> first | contradiction | rfl

theorem adds_of_not_mem {fields behind : Fields} {key : String} {v : List Char}
    (h : key ∉ fieldNames) :
    fields.Adds (key, v) behind ↔ behind = fields ∧ Writes .value v := by
  simp only [fieldNames, List.mem_cons, List.not_mem_nil, or_false, not_or] at h
  obtain ⟨h₀, h₁, h₂, h₃⟩ := h
  unfold Adds
  split <;> first | contradiction | rfl

theorem reads_member (fields : Fields) (key : String) :
    (fields.member key).Reads fields fun v => fields.Adds (key, v) := by
  by_cases hkey : key ∈ fieldNames
  · simp only [fieldNames, List.mem_cons, List.not_mem_nil, or_false] at hkey
    rcases hkey with rfl | rfl | rfl | rfl
    · exact reads_once (reads_optional_integer64.map _) _ _ fields
    · exact reads_once (reads_string.map _) _ _ fields
    · exact reads_once (reads_string.map _) _ _ fields
    · exact reads_once (reads_string.map _) _ _ fields
  · have hadds : (fun v => fields.Adds (key, v)) = fun v a => a = fields ∧ Writes .value v := by
      funext v behind
      exact propext (adds_of_not_mem hkey)
    rw [member_of_not_mem hkey, hadds]
    exact Member.reads_skipped fields

theorem Adds.writes {fields : Fields} {m : String × List Char} {behind : Fields}
    (h : fields.Adds m behind) : Writes .value m.2 := by
  unfold Adds at h
  split at h
  · obtain ⟨-, _, -, hn⟩ := h
    exact writes_of_optional writes_of_integer64 hn
  · obtain ⟨-, _, -, hs⟩ := h
    exact writes_of_string hs
  · obtain ⟨-, _, -, hs⟩ := h
    exact writes_of_string hs
  · obtain ⟨-, _, -, hs⟩ := h
    exact writes_of_string hs
  · exact h.2

@[mk_iff]
structure GathersAll (fields : Fields) (ms : List (String × List Char)) (behind : Fields) :
    Prop where
  fileDataSeq : Gathers (WritesOptional WritesInteger64) fields.fileDataSeq
    (valuesAt "fileDataSeq" ms) behind.fileDataSeq
  channelRef : Gathers WritesString fields.channelRef (valuesAt "channelRef" ms) behind.channelRef
  outputChannelCode : Gathers WritesString fields.outputChannelCode
    (valuesAt "outputChannelCode" ms) behind.outputChannelCode
  fileS3Path : Gathers WritesString fields.fileS3Path (valuesAt "fileS3Path" ms) behind.fileS3Path

/-- Fields are gathered member by member. -/
theorem gathersAll_cons {fields behind : Fields} {m : String × List Char}
    {ms : List (String × List Char)} (hm : Writes .value m.2) :
    fields.GathersAll (m :: ms) behind ↔
      ∃ between, fields.Adds m between ∧ between.GathersAll ms behind := by
  obtain ⟨key, v⟩ := m
  by_cases hkey : key ∈ fieldNames
  · -- a known key is gathered into its own field, and the others see nothing of it
    simp only [fieldNames, List.mem_cons, List.not_mem_nil, or_false] at hkey
    rcases hkey with rfl | rfl | rfl | rfl
    all_goals
      simp only [gathersAll_iff, valuesAt_cons_self, valuesAt_cons_of_ne, gathers_cons, ne_eq,
        String.reduceEq, not_false_eq_true, Adds]
    · constructor
      · rintro ⟨⟨hold, a, ha, h₀⟩, h₁, h₂, h₃⟩
        exact ⟨_, ⟨hold, a, rfl, ha⟩, h₀, h₁, h₂, h₃⟩
      · rintro ⟨_, ⟨hold, a, rfl, ha⟩, h₀, h₁, h₂, h₃⟩
        exact ⟨⟨hold, a, ha, h₀⟩, h₁, h₂, h₃⟩
    · constructor
      · rintro ⟨h₀, ⟨hold, a, ha, h₁⟩, h₂, h₃⟩
        exact ⟨_, ⟨hold, a, rfl, ha⟩, h₀, h₁, h₂, h₃⟩
      · rintro ⟨_, ⟨hold, a, rfl, ha⟩, h₀, h₁, h₂, h₃⟩
        exact ⟨h₀, ⟨hold, a, ha, h₁⟩, h₂, h₃⟩
    · constructor
      · rintro ⟨h₀, h₁, ⟨hold, a, ha, h₂⟩, h₃⟩
        exact ⟨_, ⟨hold, a, rfl, ha⟩, h₀, h₁, h₂, h₃⟩
      · rintro ⟨_, ⟨hold, a, rfl, ha⟩, h₀, h₁, h₂, h₃⟩
        exact ⟨h₀, h₁, ⟨hold, a, ha, h₂⟩, h₃⟩
    · constructor
      · rintro ⟨h₀, h₁, h₂, hold, a, ha, h₃⟩
        exact ⟨_, ⟨hold, a, rfl, ha⟩, h₀, h₁, h₂, h₃⟩
      · rintro ⟨_, ⟨hold, a, rfl, ha⟩, h₀, h₁, h₂, h₃⟩
        exact ⟨h₀, h₁, h₂, hold, a, ha, h₃⟩
  · have hvalues {name : String} (hname : name ∈ fieldNames) :
        valuesAt name ((key, v) :: ms) = valuesAt name ms :=
      valuesAt_cons_of_ne (fun h : key = name => hkey (h ▸ hname)) v ms
    simp only [adds_of_not_mem hkey, gathersAll_iff]
    rw [hvalues (by decide), hvalues (by decide), hvalues (by decide), hvalues (by decide)]
    constructor
    · intro h
      exact ⟨fields, ⟨rfl, hm⟩, h⟩
    · rintro ⟨_, ⟨rfl, -⟩, h⟩
      exact h

/-- Adding members one by one is gathering for each field the values at its key. -/
theorem addsAll_iff {fields behind : Fields} {ms : List (String × List Char)}
    (hms : ∀ m ∈ ms, Writes .value m.2) :
    AddsAll Adds fields ms behind ↔ fields.GathersAll ms behind := by
  induction ms generalizing fields with
  | nil =>
      constructor
      · rintro ⟨⟩
        exact ⟨.inl ⟨rfl, rfl⟩, .inl ⟨rfl, rfl⟩, .inl ⟨rfl, rfl⟩, .inl ⟨rfl, rfl⟩⟩
      · rintro ⟨h₀, h₁, h₂, h₃⟩
        have hsame {α : Type} {writes : α → List Char → Prop} {old new : Option α}
            (h : Gathers writes old [] new) : new = old := by
          obtain ⟨-, h⟩ | ⟨-, _, -, _, h, -⟩ := h
          · exact h
          · cases h
        obtain rfl : behind = fields := by
          cases behind
          cases fields
          simp only [mk.injEq]
          exact ⟨hsame h₀, hsame h₁, hsame h₂, hsame h₃⟩
        exact .nil
  | cons m ms ih =>
      -- what a member adds shows in its own field only
      have hmore (between : Fields) :
          AddsAll Adds between ms behind ↔ between.GathersAll ms behind :=
        ih fun m hm => hms m (List.mem_cons_of_mem _ hm)
      rw [gathersAll_cons (hms m List.mem_cons_self)]
      constructor
      · rintro ⟨⟩
        rename_i between hadd hall
        exact ⟨between, hadd, (hmore between).mp hall⟩
      · rintro ⟨between, hadd, hall⟩
        exact .cons hadd ((hmore between).mpr hall)

theorem run_requiredField_eq_ok {α : Type} {name : String} {field : Option α} {s rest : List Char}
    {a : α} : (requiredField name field).run s = .ok (a, rest) ↔ field = some a ∧ s = rest := by
  cases field with
  | none => simp [requiredField]
  | some b => simp [requiredField]

/-- The fields make a message if all but the sequence number are there. -/
theorem run_message_eq_ok {fields : Fields} {m : IncomingMessage} {s rest : List Char} :
    fields.message.run s = .ok (m, rest) ↔
      (m.fileDataSeq = fields.fileDataSeq.join ∧ fields.channelRef = some m.channelRef ∧
        fields.outputChannelCode = some m.outputChannelCode ∧
          fields.fileS3Path = some m.fileS3Path) ∧ s = rest := by
  simp only [message, run_bind_eq_ok, run_requiredField_eq_ok, run_pure_eq_ok]
  constructor
  · rintro ⟨_, _, ⟨hchannel, rfl⟩, _, _, ⟨hcode, rfl⟩, _, _, ⟨hpath, rfl⟩, rfl, rfl⟩
    exact ⟨⟨rfl, hchannel, hcode, hpath⟩, rfl⟩
  · rintro ⟨⟨hseq, hchannel, hcode, hpath⟩, rfl⟩
    exact ⟨_, s, ⟨hchannel, rfl⟩, _, s, ⟨hcode, rfl⟩, _, s, ⟨hpath, rfl⟩, by rw [← hseq], rfl⟩

/-- A field that was empty is filled exactly by one value and no other. -/
theorem gathers_none_iff {α : Type} {writes : α → List Char → Prop} {vs : List (List Char)}
    {a : α} : Gathers writes none vs (some a) ↔ Once writes a vs := by
  constructor
  · rintro (⟨-, h⟩ | ⟨-, _, h, hvs⟩)
    · cases h
    · rwa [Option.some.inj h]
  · intro h
    exact .inr ⟨rfl, a, rfl, h⟩

/-- The fields that are read describe the message whose values stand among the members. -/
theorem exists_gathersAll_empty_iff {ms : List (String × List Char)} {m : IncomingMessage}
    {s rest : List Char} :
    (∃ fields, empty.GathersAll ms fields ∧ fields.message.run s = .ok (m, rest)) ↔
      m.HasMembers ms ∧ s = rest := by
  constructor
  · rintro ⟨fields, ⟨h₀, h₁, h₂, h₃⟩, hmessage⟩
    obtain ⟨⟨hseq, hchannel, hcode, hpath⟩, rfl⟩ := run_message_eq_ok.mp hmessage
    rw [hchannel] at h₁
    rw [hcode] at h₂
    rw [hpath] at h₃
    refine ⟨⟨?_, gathers_none_iff.mp h₁, gathers_none_iff.mp h₂, gathers_none_iff.mp h₃⟩, rfl⟩
    obtain ⟨hvs, hnone⟩ | ⟨-, n, hsome, hvs⟩ := h₀
    · exact .inl ⟨hvs, by rw [hseq, hnone]; rfl⟩
    · right
      rw [hseq, hsome]
      exact hvs
  -- a missing sequence number leaves its field empty, and a null fills it with nothing
  · rintro ⟨⟨hseq, hchannel, hcode, hpath⟩, rfl⟩
    have hfields :
        ∃ n, Gathers (WritesOptional WritesInteger64) none (valuesAt "fileDataSeq" ms) n ∧
          m.fileDataSeq = n.join := by
      obtain ⟨hvs, hnone⟩ | hvs := hseq
      · exact ⟨none, .inl ⟨hvs, rfl⟩, hnone⟩
      · exact ⟨some m.fileDataSeq, gathers_none_iff.mpr hvs, rfl⟩
    obtain ⟨n, hn, hseq⟩ := hfields
    refine ⟨⟨n, m.channelRef, m.outputChannelCode, m.fileS3Path⟩,
      ⟨hn, gathers_none_iff.mpr hchannel, gathers_none_iff.mpr hcode, gathers_none_iff.mpr hpath⟩,
      ?_⟩
    exact run_message_eq_ok.mpr ⟨⟨hseq, rfl, rfl, rfl⟩, rfl⟩

end Fields

/-! ## 3. Objects and arrays -/

theorem writes_of_listed {first : Bool} {ms : List (String × List Char)} {t : List Char}
    (h : Listed .object WritesMember first ms t) : ∀ m ∈ ms, Writes .value m.2 := by
  induction h with
  | closed => simp
  | item _ hm _ ih =>
      obtain ⟨_, _, _, -, -, -, hv, -⟩ := hm
      exact List.forall_mem_cons.mpr ⟨hv, ih⟩

/-- An object is read exactly if its members have the values of a message. -/
theorem run_object_eq_ok {s rest : List Char} {m : IncomingMessage} :
    object.run s = .ok (m, rest) ↔
      ∃ ms t, Listed .object WritesMember true ms t ∧ m.HasMembers ms ∧ s = t ++ rest := by
  -- the members are gathered into fields, and the message is made of these
  have hmembers {fields : Fields} {more : List Char} :
      (members Fields.member .empty).run s = .ok (fields, more) ↔ _ :=
    takeMembers_eq_ok Fields.reads_member @Fields.Adds.writes
  rw [object, run_bind_eq_ok]
  constructor
  · rintro ⟨fields, more, hread, hmessage⟩
    obtain ⟨ms, t, ht, hadds, rfl⟩ := hmembers.mp hread
    have hgathers := (Fields.addsAll_iff (writes_of_listed ht)).mp hadds
    obtain ⟨hm, rfl⟩ := Fields.exists_gathersAll_empty_iff.mp ⟨fields, hgathers, hmessage⟩
    exact ⟨ms, t, ht, hm, rfl⟩
  · rintro ⟨ms, t, ht, hm, rfl⟩
    obtain ⟨fields, hgathers, hmessage⟩ :=
      Fields.exists_gathersAll_empty_iff.mpr ⟨hm, (rfl : rest = rest)⟩
    have hadds := (Fields.addsAll_iff (writes_of_listed ht)).mpr hgathers
    exact ⟨fields, rest, hmembers.mpr ⟨ms, t, ht, hadds, rfl⟩, hmessage⟩

theorem lists_array : Lists array true HasElements := by
  -- each element is read in front of those behind it, and the end behind the fourth
  have harray := lists_element reads_optional_integer64 (writes_of_optional writes_of_integer64) 0
    arrayText fun fileDataSeq =>
      lists_element reads_string writes_of_string 1 arrayText fun channelRef =>
        lists_element reads_string writes_of_string 2 arrayText fun outputChannelCode =>
          lists_element reads_string writes_of_string 3 arrayText fun fileS3Path =>
            lists_end (⟨fileDataSeq, channelRef, outputChannelCode, fileS3Path⟩ : IncomingMessage)
  intro s m rest
  refine (@harray s m rest).trans (exists_congr fun t => and_congr_left fun _ => ?_)
  refine exists_congr fun vs => and_congr_right fun _ => ?_
  constructor
  · rintro ⟨_, v₀, _, rfl, h₀, _, v₁, _, rfl, h₁, _, v₂, _, rfl, h₂, _, v₃, _, rfl, h₃, rfl, rfl⟩
    exact ⟨v₀, v₁, v₂, v₃, rfl, h₀, h₁, h₂, h₃⟩
  · rintro ⟨v₀, v₁, v₂, v₃, rfl, h₀, h₁, h₂, h₃⟩
    exact ⟨_, v₀, _, rfl, h₀, _, v₁, _, rfl, h₁, _, v₂, _, rfl, h₂, _, v₃, _, rfl, h₃, rfl, rfl⟩

/-! ## 4. Texts -/

def Padded (s : List Char) (text : String) : Prop :=
  ∃ b a, Spaces b ∧ Spaces a ∧ text.toList = b ++ s ++ a

def IsObject (ms : List (String × List Char)) (text : String) : Prop :=
  ∃ s, WritesObject ms s ∧ Padded s text

def IsArray (vs : List (List Char)) (text : String) : Prop := ∃ s, WritesArray vs s ∧ Padded s text

/-- A message is read from an object or from an array, and from nothing else. -/
theorem run_value_eq_ok {c : Char} {s rest : List Char} {m : IncomingMessage} :
    (value c).run s = .ok (m, rest) ↔
      ∃ t,
        ((∃ ms, WritesObject ms t ∧ m.HasMembers ms) ∨ ∃ vs, WritesArray vs t ∧ m.HasElements vs) ∧
        c :: s = t ++ rest := by
  unfold value recordOf
  constructor
  · intro h
    split at h
    next hc =>
      obtain ⟨ms, t, ht, hm, rfl⟩ := run_object_eq_ok.mp h
      exact ⟨'\x7b' :: t, .inl ⟨ms, ⟨t, ht, rfl⟩, hm⟩, by rw [hc, List.cons_append]⟩
    next =>
      split at h
      next hc =>
        obtain ⟨t, ⟨vs, ht, hm⟩, rfl⟩ := lists_array.mp h
        exact ⟨'[' :: t, .inr ⟨vs, ⟨t, ht, rfl⟩, hm⟩, by rw [hc, List.cons_append]⟩
      next => exact absurd h run_refuse_ne_ok
  · rintro ⟨_, ⟨ms, ⟨t, ht, rfl⟩, hm⟩ | ⟨vs, ⟨t, ht, rfl⟩, hm⟩, hs⟩
    -- the opening bracket tells the two apart
    · obtain ⟨rfl, rfl⟩ := List.cons.inj hs
      rw [if_pos rfl]
      exact run_object_eq_ok.mpr ⟨ms, t, ht, hm, rfl⟩
    · obtain ⟨rfl, rfl⟩ := List.cons.inj hs
      rw [if_neg (by decide), if_pos rfl]
      exact lists_array.mpr ⟨t, ⟨vs, ht, hm⟩, rfl⟩

/-- A text is decoded exactly if it is an object or an array with the values of a message. -/
theorem decode_eq_ok {text : String} {m : IncomingMessage} :
    decode text = .ok m ↔
      (∃ ms, IsObject ms text ∧ m.HasMembers ms) ∨ ∃ vs, IsArray vs text ∧ m.HasElements vs := by
  rw [decode, readAll_eq_ok]
  simp only [ValueReader.spaced, run_spaces_next_eq_ok, run_value_eq_ok]
  constructor
  · rintro ⟨a, ⟨b, c, s, hb, -, htext, t, ht, hs⟩, ha⟩
    rw [hs, ← List.append_assoc] at htext
    have hpadded : Padded t text := ⟨b, a, hb, ha, htext⟩
    obtain ⟨ms, ht, hm⟩ | ⟨vs, ht, hm⟩ := ht
    · exact .inl ⟨ms, ⟨t, ht, hpadded⟩, hm⟩
    · exact .inr ⟨vs, ⟨t, ht, hpadded⟩, hm⟩
  -- the space around the text is taken by the reader itself
  · rintro (⟨ms, ⟨_, ⟨t, ht, rfl⟩, b, a, hb, ha, htext⟩, hm⟩ |
      ⟨vs, ⟨_, ⟨t, ht, rfl⟩, b, a, hb, ha, htext⟩, hm⟩)
    · exact ⟨a, ⟨b, '\x7b', t ++ a, hb, by decide, by simpa using htext, _,
        .inl ⟨ms, ⟨t, ht, rfl⟩, hm⟩, rfl⟩, ha⟩
    · exact ⟨a, ⟨b, '[', t ++ a, hb, by decide, by simpa using htext, _,
        .inr ⟨vs, ⟨t, ht, rfl⟩, hm⟩, rfl⟩, ha⟩

theorem Padded.append_eq {c c' : Char} {s s' : List Char} {text : String}
    (h : Padded (c :: s) text) (h' : Padded (c' :: s') text) (hc : isSpace c = false)
    (hc' : isSpace c' = false) : ∃ a a', c :: s ++ a = c' :: s' ++ a' := by
  obtain ⟨b, a, hb, -, htext⟩ := h
  obtain ⟨b', a', hb', -, htext'⟩ := h'
  rw [htext', List.append_assoc, List.append_assoc] at htext
  exact ⟨a, a', (eq_of_spaces_append hb' hb (unspaced_cons hc') (unspaced_cons hc) htext).symm⟩

theorem IsObject.unique {ms ms' : List (String × List Char)} {text : String}
    (h : IsObject ms text) (h' : IsObject ms' text) : ms = ms' := by
  obtain ⟨_, ⟨t, ht, rfl⟩, hpadded⟩ := h
  obtain ⟨_, ⟨t', ht', rfl⟩, hpadded'⟩ := h'
  obtain ⟨a, a', heq⟩ := hpadded.append_eq hpadded' (by decide) (by decide)
  exact WritesObject.unique ⟨t, ht, rfl⟩ ⟨t', ht', rfl⟩ heq

theorem IsArray.unique {vs vs' : List (List Char)} {text : String} (h : IsArray vs text)
    (h' : IsArray vs' text) : vs = vs' := by
  obtain ⟨_, ⟨t, ht, rfl⟩, hpadded⟩ := h
  obtain ⟨_, ⟨t', ht', rfl⟩, hpadded'⟩ := h'
  obtain ⟨a, a', heq⟩ := hpadded.append_eq hpadded' (by decide) (by decide)
  exact WritesArray.unique ⟨t, ht, rfl⟩ ⟨t', ht', rfl⟩ heq

/-- No text is both an object and an array. -/
theorem IsObject.not_isArray {ms : List (String × List Char)} {vs : List (List Char)}
    {text : String} (h : IsObject ms text) : ¬IsArray vs text := by
  rintro ⟨_, ⟨t', -, rfl⟩, hpadded'⟩
  obtain ⟨_, ⟨t, -, rfl⟩, hpadded⟩ := h
  obtain ⟨a, a', heq⟩ := hpadded.append_eq hpadded' (by decide) (by decide)
  cases (List.cons.inj heq).1

/-- What an object is decoded to is told by its members alone. -/
theorem decode_object {ms : List (String × List Char)} {text : String} (h : IsObject ms text)
    (m : IncomingMessage) : decode text = .ok m ↔ m.HasMembers ms := by
  rw [decode_eq_ok]
  constructor
  · rintro (⟨ms', h', hm⟩ | ⟨vs, hvs, -⟩)
    · rwa [h.unique h']
    · exact absurd hvs h.not_isArray
  · intro hm
    exact .inl ⟨ms, h, hm⟩

theorem decode_array {vs : List (List Char)} {text : String} (h : IsArray vs text)
    (m : IncomingMessage) : decode text = .ok m ↔ m.HasElements vs := by
  rw [decode_eq_ok]
  constructor
  · rintro (⟨ms, hms, -⟩ | ⟨vs', h', hm⟩)
    · exact absurd h hms.not_isArray
    · rwa [h.unique h']
  · intro hm
    exact .inr ⟨vs, h, hm⟩

/-! ## 5. What matters -/

def knownMembers (ms : List (String × List Char)) : List (String × List Char) :=
  ms.filter fun m => m.1 ∈ fieldNames

theorem valuesAt_knownMembers {key : String} (h : key ∈ fieldNames)
    (ms : List (String × List Char)) : valuesAt key (knownMembers ms) = valuesAt key ms := by
  have hboth : (fun m : String × List Char => decide (m.1 = key) && decide (m.1 ∈ fieldNames)) =
      fun m => decide (m.1 = key) := by
    funext m
    by_cases hm : m.1 = key <;> simp [hm, h]
  rw [valuesAt, valuesAt, knownMembers, List.filter_filter, hboth]

/-- Members in another order have the same values at each key, in another order. -/
theorem valuesAt_perm {ms ms' : List (String × List Char)} {key : String}
    (h : (knownMembers ms).Perm (knownMembers ms')) (hkey : key ∈ fieldNames) :
    (valuesAt key ms).Perm (valuesAt key ms') := by
  rw [← valuesAt_knownMembers hkey ms, ← valuesAt_knownMembers hkey ms']
  exact (h.filter _).map _

theorem Once.perm {α : Type} {writes : α → List Char → Prop} {a : α} {vs vs' : List (List Char)}
    (h : Once writes a vs) (hperm : vs.Perm vs') : Once writes a vs' := by
  obtain ⟨v, rfl, hv⟩ := h
  exact ⟨v, List.perm_singleton.mp hperm.symm, hv⟩

/-- The order of members does not count, nor do unknown keys. -/
theorem HasMembers.perm {m : IncomingMessage} {ms ms' : List (String × List Char)}
    (h : m.HasMembers ms) (hperm : (knownMembers ms).Perm (knownMembers ms')) :
    m.HasMembers ms' where
  fileDataSeq := by
    have hvalues := valuesAt_perm hperm (show "fileDataSeq" ∈ fieldNames by decide)
    obtain ⟨hnil, hnone⟩ | honce := h.fileDataSeq
    · exact .inl ⟨List.perm_nil.mp (hnil ▸ hvalues).symm, hnone⟩
    · exact .inr (honce.perm hvalues)
  channelRef := h.channelRef.perm (valuesAt_perm hperm (by decide))
  outputChannelCode := h.outputChannelCode.perm (valuesAt_perm hperm (by decide))
  fileS3Path := h.fileS3Path.perm (valuesAt_perm hperm (by decide))

/-- No key of a message stands twice. -/
theorem HasMembers.length_le_one {m : IncomingMessage} {ms : List (String × List Char)}
    (h : m.HasMembers ms) {key : String} (hkey : key ∈ fieldNames) :
    (valuesAt key ms).length ≤ 1 := by
  have honce {α : Type} {writes : α → List Char → Prop} {a : α} {vs : List (List Char)}
      (h : Once writes a vs) : vs.length ≤ 1 := by
    obtain ⟨v, rfl, -⟩ := h
    exact Nat.le_refl 1
  simp only [fieldNames, List.mem_cons, List.not_mem_nil, or_false] at hkey
  rcases hkey with rfl | rfl | rfl | rfl
  · obtain ⟨hnil, -⟩ | hvs := h.fileDataSeq
    · rw [hnil]
      exact Nat.zero_le 1
    · exact honce hvs
  · exact honce h.channelRef
  · exact honce h.outputChannelCode
  · exact honce h.fileS3Path

/-- An object and an array of the same values describe the same message. -/
theorem hasMembers_iff_hasElements {m : IncomingMessage} {ms : List (String × List Char)}
    {v₀ v₁ v₂ v₃ : List Char} (h₀ : valuesAt "fileDataSeq" ms = [v₀])
    (h₁ : valuesAt "channelRef" ms = [v₁]) (h₂ : valuesAt "outputChannelCode" ms = [v₂])
    (h₃ : valuesAt "fileS3Path" ms = [v₃]) : m.HasMembers ms ↔ m.HasElements [v₀, v₁, v₂, v₃] := by
  -- the keys of the fields differ, so each has just the value given for it
  have honce {α : Type} {writes : α → List Char → Prop} {a : α} {v : List Char} :
      Once writes a [v] ↔ writes a v := by
    constructor
    · rintro ⟨_, ⟨⟩, hv⟩
      exact hv
    · intro hv
      exact ⟨v, rfl, hv⟩
  constructor
  · rintro ⟨hseq, hchannel, hcode, hpath⟩
    rw [h₀] at hseq
    rw [h₁] at hchannel
    rw [h₂] at hcode
    rw [h₃] at hpath
    obtain ⟨hnil, -⟩ | hseq := hseq
    · cases hnil
    · exact ⟨v₀, v₁, v₂, v₃, rfl, honce.mp hseq, honce.mp hchannel, honce.mp hcode,
        honce.mp hpath⟩
  · rintro ⟨_, _, _, _, hvs, hseq, hchannel, hcode, hpath⟩
    cases hvs
    refine ⟨.inr ?_, ?_, ?_, ?_⟩
    · exact h₀ ▸ honce.mpr hseq
    · exact h₁ ▸ honce.mpr hchannel
    · exact h₂ ▸ honce.mpr hcode
    · exact h₃ ▸ honce.mpr hpath

theorem toInt_of_writesOptional {n : Option Int64} {i : Int}
    (h : WritesOptional WritesInteger64 n (toString i).toList) : n.map Int64.toInt = some i := by
  cases n with
  | none => exact absurd h (toList_toString_ne_null i)
  | some k =>
      have hk : k.toInt = i := (toList_toString_inj h).symm
      rw [Option.map_some, hk]

/-- A text is read exactly if it describes a message, and as that message.  Members count only where
their keys are those of fields, and in any order; an object counts as much as an array of its
values; and a field whose key stands twice, or an integer that is not one of 64 bits, is never let
pass. -/
theorem decode_iff_format :
    (∀ text m, decode text = .ok m ↔
      (∃ ms, IsObject ms text ∧ m.HasMembers ms) ∨ ∃ vs, IsArray vs text ∧ m.HasElements vs) ∧
    (∀ ms text m, IsObject ms text → (decode text = .ok m ↔ m.HasMembers ms)) ∧
    (∀ vs text m, IsArray vs text → (decode text = .ok m ↔ m.HasElements vs)) ∧
    (∀ ms ms' text text', IsObject ms text → IsObject ms' text' →
      (knownMembers ms).Perm (knownMembers ms') →
        ∀ m, decode text = .ok m ↔ decode text' = .ok m) ∧
    (∀ ms v₀ v₁ v₂ v₃ text text', IsObject ms text → IsArray [v₀, v₁, v₂, v₃] text' →
      valuesAt "fileDataSeq" ms = [v₀] → valuesAt "channelRef" ms = [v₁] →
        valuesAt "outputChannelCode" ms = [v₂] → valuesAt "fileS3Path" ms = [v₃] →
          ∀ m, decode text = .ok m ↔ decode text' = .ok m) ∧
    (∀ ms text key, IsObject ms text → key ∈ fieldNames → 2 ≤ (valuesAt key ms).length →
      ∀ m, decode text ≠ .ok m) ∧
    (∀ (i : Int) ms text m, IsObject ms text → (toString i).toList ∈ valuesAt "fileDataSeq" ms →
      decode text = .ok m → m.fileDataSeq.map Int64.toInt = some i) ∧
    (∀ (i : Int) vs text m, IsArray ((toString i).toList :: vs) text →
      decode text = .ok m → m.fileDataSeq.map Int64.toInt = some i) := by
  -- one part for each thing that the format says
  refine ⟨fun _ _ => decode_eq_ok, fun _ _ m h => decode_object h m,
    fun _ _ m h => decode_array h m, ?_, ?_, ?_, ?_, ?_⟩
  · intro ms ms' text text' h h' hperm m
    rw [decode_object h, decode_object h']
    exact ⟨fun hm => hm.perm hperm, fun hm => hm.perm hperm.symm⟩
  · intro ms v₀ v₁ v₂ v₃ text text' h h' h₀ h₁ h₂ h₃ m
    rw [decode_object h, decode_array h']
    exact hasMembers_iff_hasElements h₀ h₁ h₂ h₃
  · intro ms text key h hkey htwo m hm
    have hone := ((decode_object h m).mp hm).length_le_one hkey
    omega
  · intro i ms text m h hmem hm
    obtain ⟨hnil, -⟩ | ⟨v, hv, hseq⟩ := ((decode_object h m).mp hm).fileDataSeq
    · rw [hnil] at hmem
      cases hmem
    · rw [hv, List.mem_singleton] at hmem
      exact toInt_of_writesOptional (hmem ▸ hseq)
  · intro i vs text m h hm
    obtain ⟨_, _, _, _, hvs, hseq, -⟩ := (decode_array h m).mp hm
    obtain ⟨rfl, -⟩ := List.cons.inj hvs
    exact toInt_of_writesOptional hseq

end ProcessLaunch.IncomingMessage
