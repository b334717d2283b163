/-!
# Blank characters

The characters of the Unicode property `White_Space`, and the trimming of texts by them.
-/

namespace ProcessLaunch.Text

/-- Membership in the Unicode property `White_Space`. -/
def isBlank (c : Char) : Bool :=
  let n := c.toNat
  (0x09 ≤ n && n ≤ 0x0d) || n == 0x20 || n == 0x85 || n == 0xa0 || n == 0x1680 ||
    (0x2000 ≤ n && n ≤ 0x200a) || n == 0x2028 || n == 0x2029 || n == 0x202f || n == 0x205f ||
    n == 0x3000

def trimStart (s : List Char) : List Char := s.dropWhile isBlank

def trimEnd (s : List Char) : List Char := (s.reverse.dropWhile isBlank).reverse

def trim (s : List Char) : List Char := trimEnd (trimStart s)

/-- Blanks at the front do not count. -/
theorem trimStart_append {s : List Char} (h : ∀ c ∈ s, isBlank c = true) (t : List Char) :
    trimStart (s ++ t) = trimStart t := by
  induction s with
  | nil => rfl
  | cons c s ih =>
      rw [List.cons_append, trimStart, List.dropWhile_cons_of_pos (h c List.mem_cons_self)]
      exact ih fun d hd => h d (List.mem_cons_of_mem _ hd)

/-- A text that does not begin with a blank stays as it is. -/
theorem trimStart_cons {c : Char} (h : isBlank c = false) (s : List Char) :
    trimStart (c :: s) = c :: s :=
  List.dropWhile_cons_of_neg (by simp [h])

/-- Only the blanks at the front of a text are trimmed, unless it has nothing else. -/
theorem trimStart_append_of_ne_nil {s : List Char} (h : trimStart s ≠ []) (t : List Char) :
    trimStart (s ++ t) = trimStart s ++ t := by
  rw [trimStart, List.dropWhile_append, if_neg (by simpa [trimStart] using h)]
  rfl

theorem isBlank_head_trimStart {c : Char} {rest s : List Char} (h : trimStart s = c :: rest) :
    isBlank c = false := by
  induction s with
  | nil => simp [trimStart] at h
  | cons d tail ih =>
      rw [trimStart, List.dropWhile_cons] at h
      split at h
      · exact ih h
      next hd =>
        obtain ⟨rfl, -⟩ := List.cons.inj h
        simpa using hd

end ProcessLaunch.Text

namespace ProcessLaunch

def trimmed (s : String) : String := String.ofList (Text.trim s.toList)

def isBlankText (s : String) : Bool := s.toList.all Text.isBlank

end ProcessLaunch
