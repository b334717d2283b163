/-!
# Control sequences

A text for a terminal may hold control sequences.  Where the output is no terminal, they are left
out, and so are control characters that are not blanks.
-/

namespace ProcessLaunch.CommandLine

def escape : Char := '\x1b'

def bold : String := "\x1b[1m"

def plain : String := "\x1b[0m"

def inBold (text : String) : String := bold ++ text ++ plain

/-- Where in a control sequence a text is.  A sequence with parameters ends with a letter; a command
to a device has parameters and a body; a body ends where the byte 9C stands, and a title ends with a
bell as well. -/
inductive SequenceState where
  | ground
  | escaped
  | intermediate
  | parameters
  | deviceEntry
  | deviceParameters
  | deviceIntermediate
  | body
  | title
deriving DecidableEq, Repr

namespace SequenceState

def hasEndByte (c : Char) : Bool := (String.utf8EncodeChar c).contains 0x9c

def afterPrintable (s : SequenceState) (c : Char) : SequenceState :=
  let n := c.toNat
  match s with
  | ground => ground
  | escaped =>
      if n < 0x30 then intermediate
      else
        match c with
        | '[' => parameters
        | ']' => title
        | 'P' => deviceEntry
        | 'X' => body
        | '^' => body
        | '_' => body
        | _ => ground
  | intermediate => if n < 0x30 then intermediate else ground
  | parameters => if n < 0x40 then parameters else ground
  | deviceEntry =>
      if n < 0x30 then deviceIntermediate else if n < 0x40 then deviceParameters else body
  | deviceParameters =>
      if n < 0x30 then deviceIntermediate else if n < 0x3c then deviceParameters else body
  | deviceIntermediate => if n < 0x30 then deviceIntermediate else body
  | body => body
  | title => title

def next (s : SequenceState) (c : Char) : SequenceState :=
  let n := c.toNat
  if c = escape then escaped
  else if n = 0x18 ∨ n = 0x1a then ground
  else if n = 0x07 ∧ s = title then ground
  else if n < 0x20 ∨ n = 0x7f then s
  else if n < 0x7f then s.afterPrintable c
  else if s = body ∧ hasEndByte c then ground
  else s

def isControlBlank (c : Char) : Bool := c == '\t' || c == '\n' || c == '\x0c' || c == '\r'

def isShownOutside (c : Char) : Bool :=
  isControlBlank c || (0x20 ≤ c.toNat && c.toNat != 0x7f)

/-- Whether a character is shown in a state.  Blanks are shown even in short control sequences. -/
def shows : SequenceState → Char → Bool
  | ground, c => isShownOutside c
  | escaped, c => isControlBlank c
  | intermediate, c => isControlBlank c
  | parameters, c => isControlBlank c
  | _, _ => false

end SequenceState

/-- A text as it is read for its visible part: once a character is shown, all that could be shown
outside of control sequences is, and a control sequence goes on behind it. -/
structure Scan where
  state : SequenceState
  showing : Bool

namespace Scan

def start : Scan := ⟨.ground, false⟩

def read (s : Scan) (c : Char) : Bool × Scan :=
  let shown := if s.showing then SequenceState.isShownOutside c else s.state.shows c
  if shown then (true, ⟨if c.toNat < 0x80 then s.state else .ground, true⟩)
  else (false, ⟨s.state.next c, false⟩)

def visible (s : Scan) : List Char → List Char
  | [] => []
  | c :: rest =>
      let (shown, s) := s.read c
      if shown then c :: s.visible rest else s.visible rest

end Scan

def visibleText (text : String) : String := String.ofList (Scan.start.visible text.toList)

end ProcessLaunch.CommandLine
