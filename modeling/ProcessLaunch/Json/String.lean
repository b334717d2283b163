import ProcessLaunch.Json.Reader
import ProcessLaunch.Text.Hex
import ProcessLaunch.Text.Utf8

/-!
# JSON strings

How a string is written, with the shortest escape of each character that needs one, and how it is
read, with any of its escapes.
-/

namespace ProcessLaunch.Json

open Reader

/-! ## Writing -/

def writeChar (c : Char) : List Char :=
  if c = '"' then ['\\', '"']
  else if c = '\\' then ['\\', '\\']
  else if c = '\x08' then ['\\', 'b']
  else if c = '\x0c' then ['\\', 'f']
  else if c = '\n' then ['\\', 'n']
  else if c = '\r' then ['\\', 'r']
  else if c = '\t' then ['\\', 't']
  else if c.toNat < 0x20 then
    ['\\', 'u', '0', '0', Text.hexDigit (c.toNat / 16), Text.hexDigit c.toNat]
  else [c]

def writeString (s : String) : List Char := '"' :: s.toList.flatMap writeChar ++ ['"']

/-! ## Reading -/

/-- The unit of a `\u` escape.  Four bytes are taken for its digits, if there are as many. -/
def unit : Reader Nat where
  run
    | a :: b :: c :: d :: rest =>
        match Text.hexUnit? a b c d with
        | some unit => .ok (unit, rest)
        | none => .error .malformed
    | short => .error (if Text.byteLength short < 4 then .truncated else .malformed)
  length_le {s unit rest} h := by
    split at h
    · split at h
      · cases h; simp only [List.length_cons]; omega
      · cases h
    · cases h

/-- The character of a `\u` escape, or of two if the first is half of a pair. -/
def unicode : Reader Char := do
  let high ← unit
  if Text.isLowSurrogate high then fail .malformed
  else if Text.isHighSurrogate high then
    expect '\\'
    expect 'u'
    let low ← unit
    if Text.isLowSurrogate low then return Text.surrogatePair high low else fail .malformed
  else return Char.ofNat high

def shortEscape? : Char → Option Char
  | '"' => some '"'
  | '\\' => some '\\'
  | '/' => some '/'
  | 'b' => some '\x08'
  | 'f' => some '\x0c'
  | 'n' => some '\n'
  | 'r' => some '\r'
  | 't' => some '\t'
  | _ => none

def escape (unicode : Reader Char) : Reader Char := do
  let c ← next
  if c = 'u' then unicode
  else
    match shortEscape? c with
    | some d => return d
    | none => fail .malformed

def character? (unicode : Reader Char) : Reader (Option Char) := do
  let c ← next
  if c = '"' then return none
  else if c = '\\' then some <$> escape unicode
  else if c.toNat < 0x20 then fail .malformed
  else return some c

theorem strict_character? (unicode : Reader Char) : (character? unicode).Strict :=
  strict_next.bind _

def takeCharacters (unicode : Reader Char) (s : List Char) : Except Error (List Char × List Char) :=
  match _h : (character? unicode).run s with
  | .error e => .error e
  | .ok (none, rest) => .ok ([], rest)
  | .ok (some c, rest) => (takeCharacters unicode rest).map fun (cs, rest) => (c :: cs, rest)
termination_by s.length
decreasing_by exact strict_character? unicode _h

theorem length_takeCharacters {unicode : Reader Char} {s cs rest : List Char}
    (h : takeCharacters unicode s = .ok (cs, rest)) : rest.length < s.length := by
  fun_induction takeCharacters unicode s generalizing cs rest with
  | case1 => cases h
  | case2 _ _ hc => cases h; exact strict_character? unicode hc
  | case3 s c behind hc ih =>
      have := strict_character? unicode hc
      cases ht : takeCharacters unicode behind with
      | error e => simp [ht, Except.map] at h
      | ok taken =>
          simp only [ht, Except.map, Except.ok.injEq, Prod.mk.injEq] at h
          have := ih ht
          rw [h.2] at this
          omega

def characters (unicode : Reader Char) : Reader (List Char) where
  run := takeCharacters unicode
  length_le h := Nat.le_of_lt (length_takeCharacters h)

def stringBody : Reader String := String.ofList <$> characters unicode

/-- A string that nobody wants, behind its opening quote.  Halves of pairs may stand alone. -/
def skipString : Reader Unit :=
  (fun _ => ()) <$> characters ((fun _ => Text.replacement) <$> unit)

/-! ## Bytes that are not UTF-8 -/

/-- What stands for bytes that are not UTF-8.  Only in a string that nobody wants may they stand,
and there this is a character and a unit like any other; in a string that is read it ends in half of
a pair that stands alone, and nothing else begins with its first character. -/
def stray : List Char := [Text.replacement, '\\', 'u', 'd', 'c', '8', '0']

def textOfBytes (bytes : ByteArray) : List Char := Text.decodeWith stray bytes.data.toList

end ProcessLaunch.Json
