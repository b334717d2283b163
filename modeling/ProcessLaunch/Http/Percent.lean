import ProcessLaunch.Text.Hex

/-!
# Percent-encoding

A character of an encode set is written as the bytes of its UTF-8, each as a percent sign and two
hexadecimal digits.
-/

namespace ProcessLaunch.Http

def percentByte (b : UInt8) : List Char :=
  ['%', Text.hexDigitUpper (b.toNat / 16), Text.hexDigitUpper b.toNat]

def percentEncode (set : Char → Bool) (s : List Char) : List Char :=
  s.flatMap fun c => if set c then (String.utf8EncodeChar c).flatMap percentByte else [c]

/-- The bytes of a text, where a percent sign and two digits stand for one byte. -/
def percentDecode : List Char → List UInt8
  | '%' :: a :: b :: rest =>
      match Text.hexValue? a, Text.hexValue? b with
      | some high, some low => (high * 16 + low).toUInt8 :: percentDecode rest
      | _, _ => 0x25 :: percentDecode (a :: b :: rest)
  | c :: rest => String.utf8EncodeChar c ++ percentDecode rest
  | [] => []

/-! ## Encode sets -/

def isControl (c : Char) : Bool := c.toNat < 0x20 || 0x7f ≤ c.toNat

def withChars (set : Char → Bool) (cs : List Char) (c : Char) : Bool := set c || cs.contains c

def fragmentSet : Char → Bool := withChars isControl [' ', '"', '<', '>', '`']

def querySet : Char → Bool := withChars isControl [' ', '"', '#', '<', '>']

def specialQuerySet : Char → Bool := withChars querySet ['\'']

def pathSet : Char → Bool := withChars fragmentSet ['#', '?', '\x7b', '\x7d']

def segmentSet : Char → Bool := withChars pathSet ['/', '%']

def credentialsSet : Char → Bool :=
  withChars pathSet ['/', ':', ';', '=', '@', '[', '\\', ']', '^', '|']

end ProcessLaunch.Http
