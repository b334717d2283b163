import ProcessLaunch.Properties.Line

/-!
# Lines, from the left

Lines are cut at newlines and joined at odd runs of backslashes, which are counted from the right.
Here both are said from the left: a line is taken off the front of a text, and a run of backslashes
is odd exactly if a scanner that takes a backslash together with what follows it is left with one.
-/

namespace ProcessLaunch.Properties

open Text (isBlank trimStart)

/-! ## 1. Physical lines -/

def withoutReturn : List Char → List Char
  | [] => []
  | ['\r'] => []
  | c :: rest => c :: withoutReturn rest

/-- Only the last character of a line can be the return that belongs to its end. -/
theorem withoutReturn_cons {c : Char} {rest : List Char} (h : c ≠ '\r' ∨ rest ≠ []) :
    withoutReturn (c :: rest) = c :: withoutReturn rest := by
  rw [withoutReturn]
  rintro rfl rfl
  simp at h

theorem withoutReturn_append {s t : List Char} (h : t ≠ []) :
    withoutReturn (s ++ t) = s ++ withoutReturn t := by
  induction s with
  | nil => rfl
  | cons c rest ih =>
      rw [List.cons_append, withoutReturn_cons (.inr (by simp [h])), ih, List.cons_append]

theorem withoutReturn_subset (s : List Char) : withoutReturn s ⊆ s := by
  fun_induction withoutReturn s with
  | case1 => exact List.Subset.refl _
  | case2 => simp
  | case3 c rest _ ih => exact List.cons_subset_cons c ih

/-- The first line of a text with a newline in it. -/
theorem physicalLines_append {line : List Char} (h : '\n' ∉ line) (rest : List Char) :
    physicalLines (line ++ '\n' :: rest) = withoutReturn line :: physicalLines rest := by
  induction line with
  | nil => rfl
  | cons c tail ih =>
      simp only [List.mem_cons, not_or] at h
      obtain ⟨hc, htail⟩ := h
      rw [List.cons_append]
      -- a carriage return counts as part of the line end only as the last character of the line
      by_cases hreturn : c = '\r' ∧ tail = []
      · obtain ⟨rfl, rfl⟩ := hreturn
        rfl
      · have hreturn' : c ≠ '\r' ∨ tail ≠ [] := by
          by_cases hc : c = '\r'
          · exact .inr fun htail => hreturn ⟨hc, htail⟩
          · exact .inl hc
        rw [withoutReturn_cons hreturn', physicalLines, ih htail]
        · exact Ne.symm hc
        · rintro rest' rfl hrest
          cases tail with
          | nil => exact hreturn ⟨rfl, rfl⟩
          | cons d tail =>
              obtain ⟨rfl, -⟩ := List.cons.inj hrest
              exact htail (List.mem_cons_self ..)

/-- Text without a newline is one line, if there is any. -/
theorem physicalLines_of_notMem {line : List Char} (h : '\n' ∉ line) (hne : line ≠ []) :
    physicalLines line = [line] := by
  induction line with
  | nil => exact absurd rfl hne
  | cons c tail ih =>
      rw [List.mem_cons, not_or] at h
      obtain ⟨hc, htail⟩ := h
      -- the last character of the text ends its line without a newline
      cases tail with
      | nil =>
          rw [physicalLines]
          · rfl
          · exact Ne.symm hc
          · exact fun _ _ h => by cases h
      | cons d tail =>
          rw [physicalLines, ih htail (List.cons_ne_nil _ _)]
          · exact Ne.symm hc
          · rintro _ rfl h
            cases h
            exact htail List.mem_cons_self

/-! ## 2. Open lines -/

/-- Only what stands behind the last character that is no backslash matters. -/
theorem isOpen_append_cons {c : Char} (h : c ≠ '\\') (s t : List Char) :
    isOpen (s ++ c :: t) = isOpen t := by
  simp only [isOpen, List.reverse_append, List.reverse_cons, List.append_assoc,
    List.takeWhile_append, List.cons_append, List.nil_append]
  split
  next hall => rw [List.takeWhile_cons_of_neg (by simpa using h), List.append_nil, hall]
  next => rfl

theorem isOpen_cons {c : Char} (h : c ≠ '\\') (t : List Char) : isOpen (c :: t) = isOpen t :=
  isOpen_append_cons h [] t

/-- Two backslashes in front of a text leave the parity as it is. -/
theorem isOpen_backslash_backslash (s : List Char) : isOpen ('\\' :: '\\' :: s) = isOpen s := by
  simp only [isOpen, List.reverse_cons, List.append_assoc, List.takeWhile_append]
  split
  next hall =>
    rw [hall]
    simp
  next => rfl

/-- Whether a scanner that takes a backslash together with the character behind it is left with a
backslash at the end. -/
def endsEscaped : List Char → Bool
  | [] => false
  | ['\\'] => true
  | '\\' :: _ :: rest => endsEscaped rest
  | _ :: rest => endsEscaped rest

/-- A character that such a scanner takes alone is no backslash. -/
theorem ne_backslash {c : Char} {rest : List Char} (hlast : c = '\\' → rest = [] → False)
    (hmore : ∀ d more, c = '\\' → rest = d :: more → False) : c ≠ '\\' := by
  rintro rfl
  cases rest with
  | nil => exact hlast rfl rfl
  | cons d more => exact hmore d more rfl rfl

/-- Counting backslashes from the right tells the same as scanning from the left. -/
theorem isOpen_eq_endsEscaped (s : List Char) : isOpen s = endsEscaped s := by
  fun_induction endsEscaped s with
  | case1 => rfl
  | case2 => rfl
  -- the escaped character may be a backslash itself: then two of them leave the run
  | case3 c rest ih =>
      by_cases hc : c = '\\'
      · subst hc
        rw [isOpen_backslash_backslash, ih]
      · rw [← ih, ← isOpen_append_cons hc ['\\'] rest, List.singleton_append]
  | case4 c rest hlast hmore ih => rw [isOpen_cons (ne_backslash hlast hmore), ih]

/-- A closed text in front changes nothing about whether a text is open. -/
theorem isOpen_append {s : List Char} (h : isOpen s = false) (t : List Char) :
    isOpen (s ++ t) = isOpen t := by
  rw [isOpen_eq_endsEscaped] at h ⊢
  rw [isOpen_eq_endsEscaped]
  fun_induction endsEscaped s with
  | case1 => rfl
  | case2 => cases h
  | case3 c rest ih =>
      rw [List.cons_append, List.cons_append, endsEscaped]
      exact ih h
  | case4 c rest hlast hmore ih =>
      have hc := ne_backslash hlast hmore
      rw [List.cons_append, endsEscaped]
      · exact ih h
      · exact fun heq => absurd heq hc
      · exact fun _ _ heq => absurd heq hc

theorem endsEscaped_cons {c : Char} (h : c ≠ '\\') (s : List Char) :
    endsEscaped (c :: s) = endsEscaped s := by
  rw [← isOpen_eq_endsEscaped, ← isOpen_eq_endsEscaped, isOpen_cons h]

/-- Behind its first character a text is cut at an unescaped place as what is left of it is. -/
theorem cut_cons {c : Char} (hc : c ≠ '\\') {s before after : List Char}
    (h : c :: s = before ++ after) (hbefore : endsEscaped before = false) :
    before = [] ∨
      ∃ front, before = c :: front ∧ s = front ++ after ∧ endsEscaped front = false := by
  cases before with
  | nil => exact .inl rfl
  | cons b front =>
      obtain ⟨rfl, hs⟩ := List.cons.inj h
      rw [endsEscaped_cons hc] at hbefore
      exact .inr ⟨front, rfl, hs, hbefore⟩

/-- No unescaped place is behind a backslash. -/
theorem cut_escaped {c : Char} {s before after : List Char}
    (h : '\\' :: c :: s = before ++ after) (hbefore : endsEscaped before = false) :
    before = [] ∨
      ∃ front, before = '\\' :: c :: front ∧ s = front ++ after ∧ endsEscaped front = false := by
  match before with
  | [] => exact .inl rfl
  | [b] =>
      obtain ⟨rfl, -⟩ := List.cons.inj h
      cases hbefore
  | b :: b' :: front =>
      obtain ⟨rfl, rfl, hs⟩ : '\\' = b ∧ c = b' ∧ s = front ++ after := by simpa using h
      exact .inr ⟨front, rfl, hs, hbefore⟩

/-- A scanner that is left with nothing starts anew. -/
theorem endsEscaped_append {s : List Char} (h : endsEscaped s = false) (t : List Char) :
    endsEscaped (s ++ t) = endsEscaped t := by
  rw [← isOpen_eq_endsEscaped] at h ⊢
  rw [← isOpen_eq_endsEscaped, isOpen_append h]

/-- Without its last backslash an open text is closed. -/
theorem isOpen_dropLast {s : List Char} (h : isOpen s = true) : isOpen s.dropLast = false := by
  rcases List.eq_nil_or_concat s with rfl | ⟨front, c, rfl⟩
  · cases h
  · rw [List.concat_eq_append] at h ⊢
    rw [List.dropLast_concat]
    by_cases hc : c = '\\'
    · subst hc
      rw [isOpen_concat_backslash] at h
      simpa using h
    · rw [isOpen_concat_of_ne front hc] at h
      cases h

/-- Blanks at the front have no backslash among them. -/
theorem isOpen_trimStart (s : List Char) : isOpen (trimStart s) = isOpen s := by
  induction s with
  | nil => rfl
  | cons c rest ih =>
      rw [trimStart, List.dropWhile_cons]
      split
      next hblank =>
        have hc : c ≠ '\\' := by
          rintro rfl
          exact absurd hblank (by decide)
        rw [isOpen_cons hc]
        exact ih
      next => rfl

/-! ## 3. Logical lines -/

/-- A line that is neither skipped nor open is a logical line of its own. -/
theorem logicalFrom_closed {line : List Char} (hskipped : isSkipped (trimStart line) = false)
    (hopen : isOpen (trimStart line) = false) (rest : List (List Char)) :
    logicalFrom none (line :: rest) = trimStart line :: logicalFrom none rest := by
  simp [logicalFrom, hskipped, hopen]

/-- What holds of nothing, and goes on holding as lines are joined and lose their last backslash,
holds of every logical line.  None of them goes on. -/
theorem forall_mem_logicalFrom {P : List Char → Prop} {part? : Option (List Char)}
    {lines : List (List Char)} (hnil : P []) (hdrop : ∀ part, P part → P part.dropLast)
    (hlines : ∀ line ∈ lines, ∀ part, P part → P (part ++ trimStart line))
    (hpart : ∀ part ∈ part?, P part ∧ isOpen part = false) :
    ∀ line ∈ logicalFrom part? lines, P line ∧ isOpen line = false := by
  fun_induction logicalFrom part? lines with
  | case1 => simp
  | case2 part => simpa using hpart part rfl
  | case3 line rest start hskipped ih =>
      obtain ⟨-, hrest⟩ := List.forall_mem_cons.mp hlines
      exact ih hrest (by simp)
  | case4 line rest start hskipped hopen ih =>
      obtain ⟨hline, hrest⟩ := List.forall_mem_cons.mp hlines
      have hstart : P start := hline [] hnil
      refine ih hrest fun part hpart => ?_
      cases hpart
      exact ⟨hdrop start hstart, isOpen_dropLast hopen⟩
  | case5 line rest start hskipped hclosed ih =>
      obtain ⟨hline, hrest⟩ := List.forall_mem_cons.mp hlines
      have hstart : P start := hline [] hnil
      exact List.forall_mem_cons.mpr ⟨⟨hstart, by simpa using hclosed⟩, ih hrest (by simp)⟩
  -- a joined line keeps the property because each of its parts has it
  | case6 part line rest joined hopen ih =>
      obtain ⟨hline, hrest⟩ := List.forall_mem_cons.mp hlines
      have hjoined : P joined := hline part (hpart part rfl).1
      refine ih hrest fun part' hpart' => ?_
      cases hpart'
      exact ⟨hdrop joined hjoined, isOpen_dropLast hopen⟩
  | case7 part line rest joined hclosed ih =>
      obtain ⟨hline, hrest⟩ := List.forall_mem_cons.mp hlines
      have hjoined : P joined := hline part (hpart part rfl).1
      exact List.forall_mem_cons.mpr ⟨⟨hjoined, by simpa using hclosed⟩, ih hrest (by simp)⟩

end ProcessLaunch.Properties
