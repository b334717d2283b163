import ProcessLaunch.Log
import ProcessLaunch.Text.Blank
import ProcessLaunch.Text.Integer
import ProcessLaunch.Text.Pieces

/-!
# Log filters

A filter says which records are shown.  It is asked for by a list of directives, each of which gives
a level to the parts of programs whose names begin in some way; the directive that says most about
this program decides.
-/

namespace ProcessLaunch

abbrev LogFilter := Option LogLevel

namespace LogFilter

def shows (filter : LogFilter) (record : LogRecord) : Bool :=
  match filter with
  | some level => level.rank ≤ record.level.rank
  | none => false

def default : LogFilter := some .info

/-- The filter where an empty list is asked for. -/
def ofNothing : LogFilter := some .error

/-- The filter of a number: none, or from errors on one more level for each. -/
def ofNumber? : Nat → Option LogFilter
  | 0 => some none
  | 1 => some (some .error)
  | 2 => some (some .warn)
  | 3 => some (some .info)
  | 4 => some (some .debug)
  | 5 => some (some .trace)
  | _ => none

def ofName? (text : List Char) : Option LogFilter :=
  match String.ofList (text.map Char.toLower) with
  | "off" => some none
  | "error" => some (some .error)
  | "warn" => some (some .warn)
  | "info" => some (some .info)
  | "debug" => some (some .debug)
  | "trace" => some (some .trace)
  | _ => none

def ofLevel? (text : List Char) : Option LogFilter :=
  match text with
  | '+' :: digits => (Text.natural? digits).bind ofNumber?
  | _ => ((Text.natural? text).bind ofNumber?).or (ofName? text)

end LogFilter

structure LogDirective where
  start : List Char
  filter : LogFilter
deriving DecidableEq, Repr

namespace LogDirective

/-- Whether a directive may begin with a character.  Outside ASCII every character may. -/
def isFirst (c : Char) : Bool :=
  c.isAlphanum || ['-', ':', '_', '['].contains c || 0x80 ≤ c.toNat

/-- What stands behind the name of a directive.  What is in brackets belongs to the name, so that
it is the name of no part of a program. -/
def behindName? (text : List Char) : Option (List Char) :=
  match text.dropWhile fun c => c != '=' && c != '[' with
  | '[' :: inside =>
      match inside.dropWhile (· != ']') with
      | [] => none
      | _ :: behind => some behind
  | behind => some behind

/-- Reads a directive: a level, or the beginning of names with or without a level behind an equals
sign.  Where no level is given, all records are asked for.  A name is taken with the blanks around
it, but in front of a level there may be none. -/
def ofText? (text : List Char) : Option LogDirective := do
  if (Text.trim text).head?.all (!isFirst ·) then none
  else
    let behind ← behindName? text
    let name := text.take (text.length - behind.length)
    match behind with
    | [] =>
        match LogFilter.ofLevel? text with
        | some filter => some ⟨[], filter⟩
        | none => some ⟨name, some .trace⟩
    | '=' :: level =>
        if name.head?.any Text.isBlank then none
        else if level = [] then some ⟨name, some .trace⟩
        else (LogFilter.ofLevel? level).map (⟨name, ·⟩)
    | _ => none

/-- What the names of all parts of this program begin with. -/
def program : List Char := "direct_debit_workflow::".toList

def isAboutProgram (directive : LogDirective) : Bool := directive.start.isPrefixOf program

/-- The one of two directives that says more, and of equals the later one. -/
def stronger (earlier later : LogDirective) : LogDirective :=
  if earlier.start.length ≤ later.start.length then later else earlier

end LogDirective

namespace LogFilter

/-- The filter of directives.  Where none is about this program, nothing is shown. -/
def ofDirectives (directives : List LogDirective) : LogFilter :=
  ((directives.filter LogDirective.isAboutProgram).foldl LogDirective.stronger ⟨[], none⟩).filter

def ofText (text : String) : LogFilter :=
  match (Text.pieces ',' text.toList).filter (· ≠ []) with
  | [] => ofNothing
  | asked => ((asked.mapM LogDirective.ofText?).map ofDirectives).getD default

end LogFilter

end ProcessLaunch
