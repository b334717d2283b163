/-!
# Pieces of a text

A text falls into the pieces between the occurrences of a character.
-/

namespace ProcessLaunch.Text

/-- The pieces of a text between the occurrences of a character, empty ones included. -/
def pieces (separator : Char) : List Char → List (List Char)
  | [] => [[]]
  | c :: rest =>
      if c = separator then [] :: pieces separator rest
      else
        match pieces separator rest with
        | [] => [[c]]
        | piece :: more => (c :: piece) :: more

theorem pieces_ne_nil (separator : Char) (s : List Char) : pieces separator s ≠ [] := by
  fun_cases pieces separator s <;> simp_all

end ProcessLaunch.Text
