import ProcessLaunch.Text.Blank

/-!
# Lines of a properties text

A properties text is cut into physical lines, and physical lines are joined into logical ones: a
line that ends in an odd run of backslashes goes on in the next.  Blank lines and comments are
skipped where a logical line could begin, and only there.
-/

namespace ProcessLaunch.Properties

open Text (isBlank trimStart)

/-- The physical lines.  A line ends at a newline, and a carriage return right before that newline
belongs to the line end.  Text after the last newline is a line of its own if there is any. -/
def physicalLines : List Char → List (List Char)
  | [] => []
  | '\n' :: rest => [] :: physicalLines rest
  | '\r' :: '\n' :: rest => [] :: physicalLines rest
  | c :: rest =>
      match physicalLines rest with
      | [] => [[c]]
      | line :: lines => (c :: line) :: lines

/-- Whether a line goes on: it ends in an odd number of backslashes. -/
def isOpen (line : List Char) : Bool :=
  (line.reverse.takeWhile (· == '\\')).length % 2 == 1

/-- Whether a line without leading blanks holds no entry. -/
def isSkipped : List Char → Bool
  | [] => true
  | c :: _ => c == '#' || c == '!'

/-- The logical lines of what remains of a text.  The first argument is the part of a logical line
that was left open by the physical lines before, without its last backslash. -/
def logicalFrom : Option (List Char) → List (List Char) → List (List Char)
  | none, [] => []
  | some part, [] => [part]
  | none, line :: rest =>
      let start := trimStart line
      if isSkipped start then logicalFrom none rest
      else if isOpen start then logicalFrom (some start.dropLast) rest
      else start :: logicalFrom none rest
  | some part, line :: rest =>
      let joined := part ++ trimStart line
      if isOpen joined then logicalFrom (some joined.dropLast) rest
      else joined :: logicalFrom none rest

def logicalLines (text : List Char) : List (List Char) := logicalFrom none (physicalLines text)

theorem isOpen_concat_backslash (line : List Char) : isOpen (line ++ ['\\']) = !isOpen line := by
  simp only [isOpen, List.reverse_append, List.reverse_cons, List.reverse_nil, List.nil_append,
    List.cons_append, beq_self_eq_true, List.takeWhile_cons_of_pos, List.length_cons]
  generalize (line.reverse.takeWhile (· == '\\')).length = n
  rcases Nat.mod_two_eq_zero_or_one n with h | h <;> simp [Nat.add_mod, h]

theorem isOpen_concat_of_ne {c : Char} (line : List Char) (h : c ≠ '\\') :
    isOpen (line ++ [c]) = false := by
  simp [isOpen, h]

end ProcessLaunch.Properties
