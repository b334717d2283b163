import ProcessLaunch.Log
import ProcessLaunch.Text.Hex
import ProcessLaunch.Text.Quoted

/-!
# Log lines

The line that a record is shown as.
-/

namespace ProcessLaunch

namespace FieldValue

def text : FieldValue → String
  | shown text => text
  | quoted text => Text.quoted text
  | integer value => toString value
  | flag true => "true"
  | flag false => "false"

end FieldValue

namespace LogRecord

/-- A character of a message.  One that a terminal would act on is written as its number. -/
def messageChar (c : Char) : List Char :=
  let n := c.toNat
  if n = 0x1b ∨ n = 0x07 ∨ n = 0x08 ∨ n = 0x0c ∨ n = 0x7f then
    ['\\', 'x', Text.hexDigit (n / 16), Text.hexDigit n]
  else if 0x80 ≤ n ∧ n ≤ 0x9f then ['\\', 'u', '\x7b'] ++ Nat.toDigits 16 n ++ ['\x7d']
  else [c]

def shownMessage (record : LogRecord) : String :=
  String.ofList (record.message.toList.flatMap messageChar)

def line (record : LogRecord) : String :=
  " ".intercalate ([record.level.name, record.shownMessage] ++
    record.fields.map fun (name, value) => s!"{name}={value.text}")

end LogRecord

end ProcessLaunch
