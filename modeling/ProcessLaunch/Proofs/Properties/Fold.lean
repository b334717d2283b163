import Mathlib.Logic.Relation
import ProcessLaunch.Proofs.Properties.Block
import ProcessLaunch.Proofs.Properties.Written

/-!
# Folded lines

The line of an entry may be broken at any place that does not follow an odd run of backslashes: a
backslash and a line end are put there, and blanks in front of what follows.  Such a break cannot be
told from the entries, and so neither can any number of them.
-/

namespace ProcessLaunch.Properties

open Text (isBlank trimStart trimStart_append trimStart_append_of_ne_nil trimStart_cons)

/-- The second text is the first one with one break taken out.  The break stands in the line of an
entry, and what follows it begins with a character that is not blank. -/
inductive Unfolds : List Char → List Char → Prop
  | mk {before line lineEnd blanks rest : List Char} (hbefore : IsBlock before)
      (hline : '\n' ∉ line) (hbegun : isSkipped (trimStart line) = false)
      (hclosed : isOpen line = false) (hlineEnd : lineEnd ∈ [['\n'], ['\r', '\n']])
      (hblanks : Blanks blanks) (hrest : ∃ c more, rest = c :: more ∧ isBlank c = false) :
      Unfolds (before ++ (line ++ '\\' :: lineEnd ++ blanks ++ rest)) (before ++ (line ++ rest))

/-! ## 1. One break -/

/-- Text that begins in the middle of a line goes on to the end of that line, whatever stands before
it. -/
theorem exists_physicalLines {rest : List Char}
    (hrest : ∃ c more, rest = c :: more ∧ isBlank c = false) :
    ∃ line lines, trimStart line = line ∧
      ∀ front, '\n' ∉ front → physicalLines (front ++ rest) = (front ++ line) :: lines := by
  obtain ⟨c, more, rfl, hc⟩ := hrest
  have hnewline : c ≠ '\n' := ne_of_isBlank hc (by decide)
  by_cases hmem : '\n' ∈ more
  -- the line end that comes next belongs to the rest, as does a return in front of it
  · obtain ⟨tail, behind, rfl, htail⟩ := List.eq_append_cons_of_mem hmem
    refine ⟨c :: withoutReturn tail, physicalLines behind, trimStart_cons hc _,
      fun front hfront => ?_⟩
    have hline : '\n' ∉ front ++ c :: tail := by
      simp [hfront, htail, hnewline.symm]
    rw [← List.cons_append, ← List.append_assoc, physicalLines_append hline,
      withoutReturn_append (List.cons_ne_nil _ _),
      withoutReturn_cons (.inl (ne_of_isBlank hc (by decide)))]
  · refine ⟨c :: more, [], trimStart_cons hc _, fun front hfront => ?_⟩
    apply physicalLines_of_notMem
    · simp [hfront, hmem, hnewline.symm]
    · simp

/-- The first of the two lines that a break leaves is the line up to the break, and a backslash. -/
theorem physicalLines_break {line lineEnd : List Char} (hline : '\n' ∉ line)
    (hlineEnd : lineEnd ∈ [['\n'], ['\r', '\n']]) (rest : List Char) :
    physicalLines (line ++ '\\' :: lineEnd ++ rest) = (line ++ ['\\']) :: physicalLines rest := by
  simp only [List.mem_cons, List.not_mem_nil, or_false] at hlineEnd
  rcases hlineEnd with rfl | rfl
  -- either way nothing of the line end stays behind: a return in front of the newline is cut off
  · have hfirst : '\n' ∉ line ++ ['\\'] := by simp [hline]
    have hlines := physicalLines_append hfirst rest
    rw [withoutReturn_append (List.cons_ne_nil _ _), List.append_assoc] at hlines
    rw [List.append_assoc]
    exact hlines
  · have hfirst : '\n' ∉ line ++ ['\\', '\r'] := by simp [hline]
    have hlines := physicalLines_append hfirst rest
    rw [withoutReturn_append (List.cons_ne_nil _ _), List.append_assoc] at hlines
    rw [List.append_assoc]
    exact hlines

theorem isSkipped_append {s : List Char} (h : isSkipped s = false) (t : List Char) :
    isSkipped (s ++ t) = false := by
  cases s with
  | nil => cases h
  | cons c rest => exact h

/-- Joining a line to the one that it goes on in gives what it was before it was broken. -/
theorem logicalFrom_break {line blanks next : List Char}
    (hbegun : isSkipped (trimStart line) = false) (hclosed : isOpen line = false)
    (hblanks : Blanks blanks) (hnext : trimStart next = next) (lines : List (List Char)) :
    logicalFrom none ((line ++ ['\\']) :: (blanks ++ next) :: lines) =
      logicalFrom none ((line ++ next) :: lines) := by
  have htrim (t : List Char) : trimStart (line ++ t) = trimStart line ++ t := by
    apply trimStart_append_of_ne_nil
    intro hempty
    rw [hempty] at hbegun
    cases hbegun
  -- the line has an even run of backslashes at its end, so the one behind it breaks the line
  have hopen : isOpen (trimStart line ++ ['\\']) = true := by
    rw [isOpen_concat_backslash, isOpen_trimStart, hclosed]
    rfl
  have hjoined : trimStart (blanks ++ next) = next := by
    rw [trimStart_append fun c hc => (hblanks c hc).1, hnext]
  simp [logicalFrom, htrim, isSkipped_append hbegun, hopen, hjoined]

/-- One break leaves the entries as they are. -/
theorem Unfolds.entries_eq {folded plain : List Char} (h : Unfolds folded plain) :
    entries folded = entries plain := by
  cases h with
  | @mk before line lineEnd blanks rest hbefore hline hbegun hclosed hlineEnd hblanks hrest =>
      obtain ⟨next, lines, hnext, hlines⟩ := exists_physicalLines hrest
      have hblank : '\n' ∉ blanks := fun hc => (hblanks _ hc).2 rfl
      have hlogical : logicalLines (line ++ '\\' :: lineEnd ++ blanks ++ rest) =
          logicalLines (line ++ rest) := by
        rw [logicalLines, logicalLines, List.append_assoc _ blanks,
          physicalLines_break hline hlineEnd, hlines blanks hblank, hlines line hline,
          logicalFrom_break hbegun hclosed hblanks hnext]
      -- what stands before the line is read by itself, with the break and without it
      rw [hbefore.entries_append, hbefore.entries_append]
      exact congrArg (entries before ++ List.map splitEntry ·) hlogical

/-! ## 2. Any number of breaks -/

/-- Any number of breaks leave the entries as they are. -/
theorem entries_of_unfolds {folded plain : List Char}
    (h : Relation.ReflTransGen Unfolds folded plain) :
    entries folded = entries plain := by
  induction h with
  | refl => rfl
  | tail _ hlast ih => exact ih.trans hlast.entries_eq

/-- However many breaks a text has, and wherever they fall, in a key or a separator, in a value, in
an escape or between the halves of a pair: without them it describes the same table. -/
theorem parse_of_unfolds {folded plain : String}
    (h : Relation.ReflTransGen Unfolds folded.toList plain.toList) :
    parse folded = parse plain := by
  rw [parse, entries_of_unfolds h]
  rfl

def foldedSample : String := "# c\\\nke\\\n  y=\\uD8\\\r\n3D\\\n \\uDE00\nz"

theorem parse_of_unfolds_sample :
    Relation.ReflTransGen Unfolds foldedSample.toList "# c\\\nkey=\\uD83D\\uDE00\nz".toList ∧
      parse foldedSample = parse "# c\\\nkey=\\uD83D\\uDE00\nz" ∧
      (parse foldedSample).get? "key" = some "😀" := by
  have hcomment : IsBlock "# c\\\n".toList := ⟨by decide, by decide⟩
  have hblanks (blanks : List Char) (h : ∀ c ∈ blanks, c = ' ') : Blanks blanks := by
    intro c hc
    rw [h c hc]
    decide
  have hkey : Unfolds foldedSample.toList
      "# c\\\nkey=\\uD8\\\r\n3D\\\n \\uDE00\nz".toList :=
    @Unfolds.mk _ "ke".toList ['\n'] [' ', ' '] "y=\\uD8\\\r\n3D\\\n \\uDE00\nz".toList hcomment
      (by decide) (by decide) (by decide) (by decide) (hblanks _ (by simp))
      ⟨_, _, rfl, by decide⟩
  have hescape : Unfolds "# c\\\nkey=\\uD8\\\r\n3D\\\n \\uDE00\nz".toList
      "# c\\\nkey=\\uD83D\\\n \\uDE00\nz".toList :=
    @Unfolds.mk _ "key=\\uD8".toList ['\r', '\n'] [] "3D\\\n \\uDE00\nz".toList hcomment
      (by decide) (by decide) (by decide) (by decide) (hblanks _ (by simp))
      ⟨_, _, rfl, by decide⟩
  have hpair : Unfolds "# c\\\nkey=\\uD83D\\\n \\uDE00\nz".toList
      "# c\\\nkey=\\uD83D\\uDE00\nz".toList :=
    @Unfolds.mk _ "key=\\uD83D".toList ['\n'] [' '] "\\uDE00\nz".toList hcomment
      (by decide) (by decide) (by decide) (by decide) (hblanks _ (by simp))
      ⟨_, _, rfl, by decide⟩
  -- the breaks are taken out from the front, so that each stands in a line that nothing breaks
  have hall := (Relation.ReflTransGen.single hkey).tail hescape |>.tail hpair
  have hparse := parse_of_unfolds hall
  refine ⟨hall, hparse, ?_⟩
  rw [hparse]
  decide +kernel

end ProcessLaunch.Properties
