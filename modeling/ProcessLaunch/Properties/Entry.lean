import ProcessLaunch.Table
import ProcessLaunch.Properties.Line
import ProcessLaunch.Properties.Escape

/-!
# Entries of a properties text

A logical line is cut at its first separator that is not escaped: an equals sign, a colon or a
blank.  Key and value are then unescaped.  Of two entries with one key the later one wins.
-/

namespace ProcessLaunch.Properties

open Text (isBlank trimStart)

def isSeparator (c : Char) : Bool := c == '=' || c == ':' || isBlank c

def spanKey : List Char → List Char × List Char
  | [] => ([], [])
  | ['\\'] => (['\\'], [])
  | '\\' :: c :: rest => let (key, value) := spanKey rest; ('\\' :: c :: key, value)
  | c :: rest =>
      if isSeparator c then ([], c :: rest)
      else let (key, value) := spanKey rest; (c :: key, value)

/-- What remains behind the separator: blanks, at most one equals sign or colon, blanks. -/
def dropSeparator (s : List Char) : List Char :=
  match trimStart s with
  | '=' :: rest => trimStart rest
  | ':' :: rest => trimStart rest
  | rest => rest

def splitRaw (line : List Char) : List Char × List Char :=
  let (key, rest) := spanKey line
  (key, dropSeparator rest)

def splitEntry (line : List Char) : String × String :=
  let (key, value) := splitRaw line
  (String.ofList (unescape key), String.ofList (unescape value))

def entries (text : List Char) : List (String × String) := (logicalLines text).map splitEntry

def parse (text : String) : Table String := Table.ofList (entries text.toList)

theorem spanKey_append (line : List Char) : (spanKey line).1 ++ (spanKey line).2 = line := by
  fun_induction spanKey line <;> simp_all

end ProcessLaunch.Properties
