import ProcessLaunch.Proofs.Properties.Block

/-!
# Line ends

Each line of a text may end in a newline, or in a carriage return and a newline.  Whichever it is,
and however the two are mixed, the lines are the same, and so is all that is read from them.
-/

namespace ProcessLaunch.Properties

inductive LineEnd where
  | newline
  | returnNewline
deriving DecidableEq

def LineEnd.written : LineEnd → List Char
  | newline => ['\n']
  | returnNewline => ['\r', '\n']

/-- A line and the way in which it ends.  A line that has a carriage return for its last character
needs another one in front of the newline, which would take the only one for its own. -/
structure EndedLine where
  text : List Char
  lineEnd : LineEnd
  unbroken : '\n' ∉ text
  unreturned : lineEnd = .newline → text.getLast? ≠ some '\r'

def EndedLine.written (line : EndedLine) : List Char := line.text ++ line.lineEnd.written

def ofEndedLines (lines : List EndedLine) : List Char := lines.flatMap EndedLine.written

/-! ## 1. One line -/

/-- A line that ends in no return is kept whole. -/
theorem withoutReturn_of_getLast?_ne {line : List Char} (h : line.getLast? ≠ some '\r') :
    withoutReturn line = line := by
  fun_induction withoutReturn line with
  | case1 => rfl
  | case2 => exact absurd rfl h
  | case3 c rest hreturn ih =>
      cases rest with
      | nil => rfl
      | cons d rest =>
          rw [List.getLast?_cons_cons] at h
          rw [ih h]

theorem withoutReturn_concat_return (line : List Char) : withoutReturn (line ++ ['\r']) = line := by
  rw [withoutReturn_append (List.cons_ne_nil _ _)]
  show line ++ [] = line
  rw [List.append_nil]

/-- Either way nothing of the line end is left in the line, and all of the line is kept. -/
theorem physicalLines_endedLine (line : EndedLine) (rest : List Char) :
    physicalLines (line.written ++ rest) = line.text :: physicalLines rest := by
  obtain ⟨text, lineEnd, hunbroken, hunreturned⟩ := line
  cases lineEnd with
  | newline =>
      have hline := physicalLines_append hunbroken rest
      rw [withoutReturn_of_getLast?_ne (hunreturned rfl)] at hline
      show physicalLines (text ++ ['\n'] ++ rest) = text :: physicalLines rest
      rw [List.append_assoc]
      exact hline
  | returnNewline =>
      -- the line before the newline is one with a return at its end, and that return is dropped
      have hreturned : '\n' ∉ text ++ ['\r'] := by simp [hunbroken]
      have hline := physicalLines_append hreturned rest
      rw [withoutReturn_concat_return, List.append_assoc] at hline
      show physicalLines (text ++ ['\r', '\n'] ++ rest) = text :: physicalLines rest
      rw [List.append_assoc]
      exact hline

/-! ## 2. All lines -/

/-- The lines are read back, whichever way each of them ends. -/
theorem physicalLines_ofEndedLines (lines : List EndedLine) (rest : List Char) :
    physicalLines (ofEndedLines lines ++ rest) = lines.map (·.text) ++ physicalLines rest := by
  induction lines with
  | nil => rfl
  | cons line lines ih =>
      rw [ofEndedLines, List.flatMap_cons, List.append_assoc, physicalLines_endedLine]
      rw [ofEndedLines] at ih
      rw [ih]
      rfl

/-- The lines of a text are what stands in front of their ends.  So two texts with the same lines
describe the same table, whatever the lines end in: a line may be blank, a comment, or one that goes
on in the next, and there may be returns inside it.  Behind the last end there may be more text. -/
theorem parse_of_line_ends (lines lines' : List EndedLine)
    (h : lines.map (·.text) = lines'.map (·.text)) (rest : List Char) :
    physicalLines (ofEndedLines lines ++ rest) = lines.map (·.text) ++ physicalLines rest ∧
      parse (String.ofList (ofEndedLines lines ++ rest)) =
        parse (String.ofList (ofEndedLines lines' ++ rest)) := by
  have hlines := physicalLines_ofEndedLines lines rest
  have hlines' := physicalLines_ofEndedLines lines' rest
  refine ⟨hlines, ?_⟩
  have hlogical : logicalLines (ofEndedLines lines ++ rest) =
      logicalLines (ofEndedLines lines' ++ rest) := by
    rw [logicalLines, logicalLines, hlines, hlines', h]
  rw [parse, parse, String.toList_ofList, String.toList_ofList, entries, entries, hlogical]

def sampleLines (odd even : LineEnd) : List EndedLine :=
  [⟨"# c\\".toList, odd, by decide, fun _ => by decide⟩,
    ⟨"k=a\\".toList, even, by decide, fun _ => by decide⟩,
    ⟨" b\rc\\".toList, odd, by decide, fun _ => by decide⟩,
    ⟨"\\\\".toList, even, by decide, fun _ => by decide⟩,
    ⟨[], odd, by decide, fun _ => by decide⟩,
    ⟨"l\\".toList, even, by decide, fun _ => by decide⟩]

theorem parse_of_line_ends_mixed :
    (sampleLines .newline .returnNewline).map (·.text) =
        (sampleLines .returnNewline .newline).map (·.text) ∧
      physicalLines (ofEndedLines (sampleLines .newline .returnNewline)) =
        (sampleLines .newline .returnNewline).map (·.text) ∧
      parse "# c\\\nk=a\\\r\n b\rc\\\n\\\\\r\n\nl\\\r\n" =
        parse "# c\\\r\nk=a\\\n b\rc\\\r\n\\\\\n\r\nl\\\n" ∧
      (parse "# c\\\nk=a\\\r\n b\rc\\\n\\\\\r\n\nl\\\r\n").get? "k" = some "ab\rc\\" := by
  obtain ⟨hlines, hparse⟩ :=
    parse_of_line_ends (sampleLines .newline .returnNewline) (sampleLines .returnNewline .newline)
      rfl []
  rw [List.append_nil] at hlines
  exact ⟨rfl, hlines.trans (List.append_nil _), hparse, by decide +kernel⟩

end ProcessLaunch.Properties
