import ProcessLaunch.Proofs.Message.Format

/-!
# Messages that are written and read

What is written for a message is an object with its values, so it is read as the same message.
-/

namespace ProcessLaunch

namespace Json

/-! ## 1. Strings -/

/-- Each character is written in one of the ways in which it may be read. -/
theorem spellsChar_writeChar (c : Char) : SpellsChar PairedUnits c (writeChar c) := by
  by_cases hquote : c = '"'
  · subst hquote
    exact .short (by decide)
  by_cases hbackslash : c = '\\'
  · subst hbackslash
    exact .short (by decide)
  rw [writeChar, if_neg hquote, if_neg hbackslash]
  split
  next h => exact h ▸ .short (by decide)
  split
  next h => exact h ▸ .short (by decide)
  split
  next h => exact h ▸ .short (by decide)
  split
  next h => exact h ▸ .short (by decide)
  split
  next h => exact h ▸ .short (by decide)
  split
  next hcontrol =>
    -- a control character is one unit, whose first two digits are zero
    have hunit : ∀ n < 0x20,
        Text.hexUnit? '0' '0' (Text.hexDigit (n / 16)) (Text.hexDigit n) = some n := by decide
    have hspells := Properties.SpellsUnits.cons
      (Properties.spellsUnit_iff.mpr ⟨_, _, _, _, rfl, hunit c.toNat hcontrol⟩) .nil
    have hunits : Properties.utf16Units c = [c.toNat] := by
      rw [Properties.utf16Units, if_pos (by omega)]
    refine .units ?_
    rw [PairedUnits, hunits]
    exact hspells
  next hcontrol => exact .plain hquote hbackslash (by omega)

/-- A string is written in one of the ways to spell it. -/
theorem spellsText_flatMap (cs : List Char) : SpellsText PairedUnits cs (cs.flatMap writeChar) := by
  induction cs with
  | nil => exact .nil
  | cons c cs ih =>
      rw [List.flatMap_cons]
      exact .cons (spellsChar_writeChar c) ih

theorem writesString_writeString (text : String) : WritesString text (writeString text) :=
  ⟨_, spellsText_flatMap text.toList, rfl⟩

end Json

namespace IncomingMessage

open Json

/-! ## 2. Messages -/

theorem writesOptional_writeSequence (n : Option Int64) :
    WritesOptional WritesInteger64 n (writeSequence n) := by
  cases n <;> rfl

def writtenMembers (m : IncomingMessage) : List (String × List Char) :=
  [("fileDataSeq", writeSequence m.fileDataSeq), ("channelRef", writeString m.channelRef),
    ("outputChannelCode", writeString m.outputChannelCode),
    ("fileS3Path", writeString m.fileS3Path)]

theorem hasMembers_writtenMembers (m : IncomingMessage) : m.HasMembers m.writtenMembers where
  fileDataSeq := .inr ⟨_, rfl, writesOptional_writeSequence m.fileDataSeq⟩
  channelRef := ⟨_, rfl, writesString_writeString m.channelRef⟩
  outputChannelCode := ⟨_, rfl, writesString_writeString m.outputChannelCode⟩
  fileS3Path := ⟨_, rfl, writesString_writeString m.fileS3Path⟩

theorem writesMember_writeMember (name : String) {v : List Char} (h : Writes .value v) :
    WritesMember (name, v) (writeMember name v) :=
  ⟨writeString name, [], [], writesString_writeString name, spaces_nil, spaces_nil, h,
    by simp [writeMember]⟩

/-- Behind the first member there is nothing between them but commas. -/
theorem listed_flatMap {ms : List (String × List Char)} (h : ∀ m ∈ ms, Writes .value m.2) :
    Listed .object WritesMember false ms
      ((ms.flatMap fun m => ',' :: writeMember m.1 m.2) ++ ['\x7d']) := by
  have hcomma : Lead false [','] := ⟨[], [], spaces_nil, spaces_nil, rfl⟩
  induction ms with
  | nil => exact .closed spaces_nil
  | cons m ms ih =>
      have hm := writesMember_writeMember m.1 (h m List.mem_cons_self)
      have hms := ih fun m hm => h m (List.mem_cons_of_mem _ hm)
      simpa using Listed.item hcomma hm hms

/-- A message is written as an object of its members. -/
theorem writesObject_encodeChars (m : IncomingMessage) :
    WritesObject m.writtenMembers m.encodeChars := by
  have hvalues : ∀ member ∈ m.writtenMembers, Writes .value member.2 := by
    have hsequence := writes_of_optional writes_of_integer64
      (writesOptional_writeSequence m.fileDataSeq)
    have hstring (text : String) := writes_of_string (writesString_writeString text)
    simp only [writtenMembers, List.forall_mem_cons]
    exact ⟨hsequence, hstring _, hstring _, hstring _, nofun⟩
  obtain ⟨hfirst, hmore⟩ := List.forall_mem_cons.mp hvalues
  have hlead : Lead true [] := spaces_nil
  have hlisted := Listed.item hlead (writesMember_writeMember "fileDataSeq" hfirst)
    (listed_flatMap hmore)
  refine ⟨_, hlisted, ?_⟩
  simp [encodeChars, List.intercalate]

theorem isObject_encode (m : IncomingMessage) : IsObject m.writtenMembers m.encode := by
  refine ⟨m.encodeChars, writesObject_encodeChars m, [], [], spaces_nil, spaces_nil, ?_⟩
  rw [encode, String.toList_ofList, List.append_nil, List.nil_append]

theorem decode_encode (m : IncomingMessage) : decode m.encode = .ok m :=
  (decode_object (isObject_encode m) m).mpr (hasMembers_writtenMembers m)

theorem encode_injective {m m' : IncomingMessage} (h : m.encode = m'.encode) : m = m' := by
  have hread := decode_encode m
  rw [h, decode_encode m', Except.ok.injEq] at hread
  exact hread.symm

/-- What a message is written as is read as that message, so that two messages are written alike
only if they are equal, and a text that has been read and written is not changed by reading and
writing it again. -/
theorem encode_round_trip :
    (∀ m, decode m.encode = .ok m) ∧ (∀ m m' : IncomingMessage, m = m' ↔ m.encode = m'.encode) ∧
    (∀ text, (decode text).bind (fun m => decode m.encode) = decode text) ∧
    ∀ text text', (decode text).map encode = .ok text' → (decode text').map encode = .ok text' := by
  have hagain (text : String) : (decode text).bind (fun m => decode m.encode) = decode text := by
    cases decode text with
    | error e => rfl
    | ok m => exact decode_encode m
  refine ⟨decode_encode, fun m m' => ⟨congrArg encode, encode_injective⟩, hagain,
    fun text text' h => ?_⟩
  -- only a text that is read has anything to write again
  cases hm : decode text with
  | error e =>
      rw [hm] at h
      cases h
  | ok m =>
      rw [hm] at h
      cases h
      rw [decode_encode]
      rfl

end IncomingMessage

end ProcessLaunch
