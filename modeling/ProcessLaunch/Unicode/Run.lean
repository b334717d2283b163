import ProcessLaunch.Text.Hex

/-!
# Runs of code points

What is known of the characters is held as runs of code points in ascending order.  As a text, a run
is its first and its last code point with a dash between them, or its only one; then a colon and the
distance of its code points, if they are further apart than one; then an equals sign and what is
said of them, with plus signs between the values.  All numbers are hexadecimal, and runs stand
between spaces or line ends.
-/

namespace ProcessLaunch.Unicode

structure Run where
  first : Nat
  last : Nat
  step : Nat
  values : List Nat
deriving DecidableEq, Repr

namespace Run

def has (run : Run) (n : Nat) : Bool :=
  run.first ≤ n && n ≤ run.last && (n - run.first) % run.step == 0

def number (digits : String) : Nat :=
  digits.toList.foldl (fun n c => n * 16 + (Text.hexValue? c).getD 0) 0

def ofText (text : String) : Run :=
  let (place, values) :=
    match text.splitOn "=" with
    | [place, values] => (place, (values.splitOn "+").map number)
    | _ => (text, [])
  let (bounds, step) :=
    match place.splitOn ":" with
    | [bounds, step] => (bounds, number step)
    | _ => (place, 1)
  match bounds.splitOn "-" with
  | [first, last] => ⟨number first, number last, step, values⟩
  | _ => ⟨number bounds, number bounds, step, values⟩

end Run

abbrev Runs := List Run

namespace Runs

def ofText (text : String) : Runs :=
  (((text.splitOn "\n").flatMap (·.splitOn " ")).filter (· ≠ "")).map Run.ofText

/-- The run that a code point is in.  Runs that begin behind it are not looked at. -/
def at? : Runs → Nat → Option Run
  | [], _ => none
  | run :: rest, n =>
      if n < run.first then none
      else if run.has n then some run
      else at? rest n

def has (runs : Runs) (c : Char) : Bool := (runs.at? c.toNat).isSome

end Runs

end ProcessLaunch.Unicode
