import ProcessLaunch.Text.Pieces

/-!
# Pieces of a text

How a text falls into pieces that is put together of others.  There is one piece more than there are
separators.
-/

namespace ProcessLaunch.Text

/-- A text without the separator goes on into the first piece of what stands behind it. -/
theorem pieces_append {separator : Char} {s t piece : List Char} {more : List (List Char)}
    (hs : separator ∉ s) (ht : pieces separator t = piece :: more) :
    pieces separator (s ++ t) = (s ++ piece) :: more := by
  induction s with
  | nil => exact ht
  | cons c s ih =>
    rw [List.mem_cons, not_or] at hs
    rw [List.cons_append, pieces, if_neg (Ne.symm hs.1), ih hs.2]
    rfl

theorem pieces_of_not_mem {separator : Char} {s : List Char} (h : separator ∉ s) :
    pieces separator s = [s] := by
  have happend : pieces separator (s ++ []) = [s ++ []] := pieces_append h rfl
  rwa [List.append_nil] at happend

theorem pieces_append_cons (separator : Char) (s t : List Char) :
    pieces separator (s ++ separator :: t) = pieces separator s ++ pieces separator t := by
  induction s with
  | nil => simp [pieces]
  | cons c s ih =>
    rw [List.cons_append, pieces, pieces, ih]
    split
    · rfl
    · obtain ⟨piece, more, h⟩ := List.exists_cons_of_ne_nil (pieces_ne_nil separator s)
      rw [h]
      rfl

/-- What stands in front of the first separator and what stands behind it are told by the text. -/
theorem append_separator_inj {separator : Char} {s s' t t' : List Char} (hs : separator ∉ s)
    (hs' : separator ∉ s') (h : s ++ separator :: t = s' ++ separator :: t') :
    s = s' ∧ t = t' := by
  have hpieces := congrArg (pieces separator) h
  rw [pieces_append_cons, pieces_append_cons, pieces_of_not_mem hs, pieces_of_not_mem hs',
    List.singleton_append, List.singleton_append] at hpieces
  obtain ⟨rfl, -⟩ := List.cons.inj hpieces
  exact ⟨rfl, (List.cons.inj (List.append_cancel_left h)).2⟩

/-- A piece is part of the text and holds no separator. -/
theorem sublist_of_mem_pieces {separator : Char} {s piece : List Char}
    (h : piece ∈ pieces separator s) : piece.Sublist s ∧ separator ∉ piece := by
  induction s generalizing piece with
  | nil =>
    rw [pieces, List.mem_singleton] at h
    subst h
    exact ⟨List.Sublist.slnil, List.not_mem_nil⟩
  | cons c s ih =>
    rw [pieces] at h
    split at h
    · rw [List.mem_cons] at h
      obtain rfl | h := h
      · exact ⟨List.nil_sublist _, List.not_mem_nil⟩
      · exact ⟨(ih h).1.cons c, (ih h).2⟩
    · next hc =>
      -- another character belongs to the first piece of what follows it
      obtain ⟨first, more, hpieces⟩ := List.exists_cons_of_ne_nil (pieces_ne_nil separator s)
      rw [hpieces] at h ih
      rw [List.mem_cons] at h
      obtain rfl | h := h
      · obtain ⟨hsub, hnot⟩ := ih List.mem_cons_self
        refine ⟨hsub.cons_cons c, ?_⟩
        rw [List.mem_cons, not_or]
        exact ⟨Ne.symm hc, hnot⟩
      · obtain ⟨hsub, hnot⟩ := ih (List.mem_cons_of_mem _ h)
        exact ⟨hsub.cons c, hnot⟩

/-- Texts with separators between them fall into the pieces of each. -/
theorem pieces_intercalate (separator : Char) {texts : List (List Char)} (h : texts ≠ []) :
    pieces separator ([separator].intercalate texts) = texts.flatMap (pieces separator) := by
  induction texts with
  | nil => exact absurd rfl h
  | cons s texts ih =>
    cases texts with
    | nil => simp
    | cons t texts =>
      rw [List.intercalate_cons_cons, List.append_assoc, List.singleton_append,
        pieces_append_cons, ih (List.cons_ne_nil _ _)]
      exact List.flatMap_cons.symm

/-- There is one piece more than there are separators. -/
theorem length_pieces (separator : Char) (s : List Char) :
    (pieces separator s).length = s.count separator + 1 := by
  induction s with
  | nil => rfl
  | cons c s ih =>
    rw [pieces]
    split
    next heq => rw [heq, List.count_cons_self, List.length_cons, ih]
    next hne =>
      obtain ⟨piece, more, h⟩ := List.exists_cons_of_ne_nil (pieces_ne_nil separator s)
      rw [List.count_cons_of_ne hne, ← ih, h]
      rfl

end ProcessLaunch.Text
