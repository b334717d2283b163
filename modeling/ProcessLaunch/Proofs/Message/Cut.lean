import ProcessLaunch.Proofs.Json.Cut
import ProcessLaunch.Proofs.Message.RoundTrip

/-!
# Messages that are cut or extended

Wherever the text of a message is cut, it is found too short before anything else is said of it, and
what stands behind a message is no part of it.
-/

namespace ProcessLaunch.IncomingMessage

open Json Json.Reader

/-! ## 1. Cut messages -/

theorem usesUp_once {α φ : Type} {name : String} {old : Option α} {value : ValueReader φ}
    {fields : φ} {v : List Char} (hold : old = none) (h : value.UsesUp v) (hv : Begun v) :
    (once name old value).UsesUp fields v := by
  subst hold
  exact Member.usesUp_read h hv fields

/-- The value of a field is read into it as far as it stands there. -/
theorem Fields.usesUp_member {fields behind : Fields} {key : String} {v : List Char}
    (hkey : key ∈ fieldNames) (h : fields.Adds (key, v) behind) :
    (fields.member key).UsesUp fields v := by
  have hbegun : Begun v := h.writes.begun
  simp only [fieldNames, List.mem_cons, List.not_mem_nil, or_false] at hkey
  rcases hkey with rfl | rfl | rfl | rfl
  · obtain ⟨hold, n, -, hn⟩ := h
    have hvalue := usesUp_optional WritesInteger64.head?_ne usesUp_integer64 hn
    exact usesUp_once hold (hvalue.map _) hbegun
  · obtain ⟨hold, s, -, hs⟩ := h
    exact usesUp_once hold ((usesUp_string hs).map _) hbegun
  · obtain ⟨hold, s, -, hs⟩ := h
    exact usesUp_once hold ((usesUp_string hs).map _) hbegun
  · obtain ⟨hold, s, -, hs⟩ := h
    exact usesUp_once hold ((usesUp_string hs).map _) hbegun

theorem mem_fieldNames_of_mem_writtenMembers {m : IncomingMessage} {member : String × List Char}
    (h : member ∈ m.writtenMembers) : member.1 ∈ fieldNames := by
  simp only [writtenMembers, List.mem_cons, List.not_mem_nil, or_false] at h
  rcases h with rfl | rfl | rfl | rfl <;> simp [fieldNames]

/-- A message that is cut off is found too short. -/
theorem decode_of_front {m : IncomingMessage} {front : String}
    (h : Front front.toList m.encodeChars) : decode front = .error .truncated := by
  obtain ⟨t, ht, hencode⟩ := writesObject_encodeChars m
  obtain ⟨fields, hgathers, -⟩ := Fields.exists_gathersAll_empty_iff.mpr
    ⟨hasMembers_writtenMembers m, (rfl : ([] : List Char) = [])⟩
  have hadds := (Fields.addsAll_iff (writes_of_listed ht)).mpr hgathers
  have hshort : value.spaced.run front.toList = .error .truncated := by
    rw [hencode] at h
    rcases front_cons h with hnil | ⟨mid, hmid, hcons⟩
    · rw [hnil]
      rfl
    · -- the members are cut, so the object comes to no end
      have hmembers : (members Fields.member .empty).run mid = .error .truncated :=
        takeMembers_of_front Fields.reads_member @Fields.Adds.writes
          (fun _ hmember _ _ => Fields.usesUp_member (mem_fieldNames_of_mem_writtenMembers hmember))
          ht hadds hmid
      have hobject : value.spaced.run ('\x7b' :: mid) = object.run mid := rfl
      rw [hcons, hobject, object, run_bind, hmembers]
  rw [decode, readAll, hshort]

/-! ## 2. Extended messages -/

/-- A message is read off the front of whatever begins with its text. -/
theorem run_encodeChars (m : IncomingMessage) (rest : List Char) :
    value.spaced.run (m.encodeChars ++ rest) = .ok (m, rest) := by
  obtain ⟨t, ht, hencode⟩ := writesObject_encodeChars m
  have hvalue : (value '\x7b').run (t ++ rest) = .ok (m, rest) :=
    run_value_eq_ok.mpr
      ⟨_, .inl ⟨_, ⟨t, ht, rfl⟩, hasMembers_writtenMembers m⟩, List.cons_append.symm⟩
  exact run_spaces_next_eq_ok.mpr
    ⟨[], '\x7b', t ++ rest, spaces_nil, by decide, by rw [hencode]; rfl, hvalue⟩

/-- Behind a message only space may stand. -/
theorem decode_encode_append (m : IncomingMessage) (more : String) :
    decode (m.encode ++ more) =
      if more.toList.all isSpace then .ok m else .error .malformed := by
  have htext : (m.encode ++ more).toList = m.encodeChars ++ more.toList := by
    rw [String.toList_append, encode, String.toList_ofList]
  rw [decode, readAll, htext, run_encodeChars]

/-- A message without its end is found too short, whatever part of it the end is missing from, and a
message with more behind it is the same message if that is only space and malformed if it is not. -/
theorem decode_cut_or_extended (m : IncomingMessage) :
    (∀ front : String, front.toList <+: m.encode.toList → front ≠ m.encode →
      decode front = .error .truncated) ∧
    (∀ more : String, (∀ c ∈ more.toList, isSpace c = true) → decode (m.encode ++ more) = .ok m) ∧
    ∀ more : String, (∃ c ∈ more.toList, isSpace c = false) →
      decode (m.encode ++ more) = .error .malformed := by
  refine ⟨fun front hprefix hne => ?_, fun more hspaces => ?_, fun more hmore => ?_⟩
  · have hchars : m.encode.toList = m.encodeChars := String.toList_ofList
    have hcut : Front front.toList m.encodeChars :=
      front_iff.mpr ⟨hchars ▸ hprefix, fun h => hne (String.toList_inj.mp (h.trans hchars.symm))⟩
    exact decode_of_front hcut
  · rw [decode_encode_append, if_pos (List.all_eq_true.mpr hspaces)]
  · obtain ⟨c, hc, hspace⟩ := hmore
    rw [decode_encode_append, if_neg fun hall => ?_]
    rw [List.all_eq_true.mp hall c hc] at hspace
    cases hspace

end ProcessLaunch.IncomingMessage
