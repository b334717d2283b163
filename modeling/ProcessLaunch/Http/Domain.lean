import ProcessLaunch.Http.Punycode
import ProcessLaunch.Text.Pieces
import ProcessLaunch.Unicode.Direction
import ProcessLaunch.Unicode.Joining
import ProcessLaunch.Unicode.Name
import ProcessLaunch.Unicode.Normal

/-!
# Domain names

A domain name consists of labels between dots.  Names that differ in case, width or look only are
the same name, and all of them are written in ASCII: a label with other characters is written in
Punycode behind a prefix of its own.
-/

namespace ProcessLaunch.Http

namespace Domain

def isAscii (c : Char) : Bool := c.toNat < 0x80

/-! ## Labels -/

def punycodePrefix : List Char := "xn--".toList

def encoding? (label : List Char) : Option (List Char) :=
  if label.take punycodePrefix.length = punycodePrefix then
    some (label.drop punycodePrefix.length)
  else none

def maxEncoding : Nat := 2000

def maxLabel : Nat := 1000

/-- The label of an encoding, if it is what that label is written as: it has a character outside
ASCII, and it is in normal form. -/
def ofEncoding? (encoding : List Char) : Option (List Char) := do
  if encoding = [] ∨ encoding.getLast? = some '-' ∨ maxEncoding < encoding.length then none
  else
    let label ← Punycode.decode? encoding
    if label.all Unicode.isNameChar ∧ Unicode.normalForm label = label then some label else none

def nonJoiner : Char := '\u200c'

def joiner : Char := '\u200d'

def beginsWith (joins : Char → Bool) (s : List Char) : Bool :=
  (s.dropWhile Unicode.isTransparent).head?.any joins

/-- Whether each joiner stands where it may: behind a virama, or, if it keeps letters from joining,
between letters that would join.  The text before comes with its last character first. -/
def joinersFit (before : List Char) : List Char → Bool
  | [] => true
  | c :: rest =>
      let behindVirama :=
        before.head?.any fun d => Unicode.combiningClass d == Unicode.viramaClass
      let betweenLetters :=
        beginsWith Unicode.joinsNext before && beginsWith Unicode.joinsPrevious rest
      let fits :=
        if c = joiner then behindVirama
        else if c = nonJoiner then behindVirama || betweenLetters
        else true
      fits && joinersFit (c :: before) rest

def isLabel (label : List Char) : Bool :=
  label.all isAscii ||
    (label.length ≤ maxLabel && !label.head?.any Unicode.isMark && joinersFit [] label)

def label? (part : List Char) : Option (List Char) := do
  let label ←
    match encoding? part with
    | some encoding => ofEncoding? encoding
    | none => some part
  if isLabel label then some label else none

def labelText (label : List Char) : List Char :=
  if label.all isAscii then label else punycodePrefix ++ Punycode.encode label

/-! ## Directions -/

def isRightToLeft (c : Char) : Bool :=
  Unicode.direction c == .rightToLeft || Unicode.direction c == .arabicNumber

def directions (label : List Char) : List Unicode.Direction :=
  ((label.map Unicode.direction).reverse.dropWhile (· == .mark)).reverse

/-- Whether the directions of a label keep it apart from its neighbours: it begins with a letter,
has no character of the other direction, and ends with a letter or a number.  Numbers of both kinds
do not mix. -/
def isOrdered (label : List Char) : Bool :=
  match label.head?.map Unicode.direction with
  | none => true
  | some .leftToRight =>
      let all := directions label
      all.all ([.leftToRight, .europeanNumber, .neutral, .mark].contains ·) &&
        all.getLast?.all ([.leftToRight, .europeanNumber].contains ·)
  | some .rightToLeft =>
      let all := directions label
      all.all ([.rightToLeft, .arabicNumber, .europeanNumber, .neutral, .mark].contains ·) &&
        all.getLast?.all ([.rightToLeft, .arabicNumber, .europeanNumber].contains ·) &&
        !(all.contains .arabicNumber && all.contains .europeanNumber)
  | some _ => false

/-! ## Names -/

def spelled? (name : List Char) : Option (List Char) :=
  if name.all isAscii then some (name.map Char.toLower)
  else (name.mapM Unicode.nameChars?).map fun parts => Unicode.normalForm parts.flatten

def labels? (name : List Char) : Option (List (List Char)) := do
  let labels ← (Text.pieces '.' (← spelled? name)).mapM label?
  if labels.any (·.any isRightToLeft) ∧ labels.any (!isOrdered ·) then none else some labels

def ascii? (name : List Char) : Option (List Char) :=
  (labels? name).map fun labels => ['.'].intercalate (labels.map labelText)

end Domain

end ProcessLaunch.Http
