/-!
# Punycode

A label of a host name with characters outside ASCII is written in ASCII: its ASCII characters, and
then where each other character goes, in ascending order of the characters.
-/

namespace ProcessLaunch.Http.Punycode

def digit (n : Nat) : Char := if n < 26 then Char.ofNat (0x61 + n) else Char.ofNat (0x30 + n - 26)

/-- From which digit on a number goes on behind a place, `bias` below the place. -/
def threshold (place bias : Nat) : Nat := min 26 (max 1 (place - bias))

theorem threshold_pos (place bias : Nat) : 0 < threshold place bias := by
  simp only [threshold]; omega

def number (bias place n : Nat) : List Char :=
  let t := threshold place bias
  if _h : n < t then [digit n]
  else digit (t + (n - t) % (36 - t)) :: number bias (place + 36) ((n - t) / (36 - t))
termination_by n
decreasing_by
  have := threshold_pos place bias
  have := Nat.div_le_self (n - threshold place bias) (36 - threshold place bias)
  omega

def biasFrom (place delta : Nat) : Nat :=
  if _h : 455 < delta then biasFrom (place + 36) (delta / 35)
  else place + 36 * delta / (delta + 38)
termination_by delta
decreasing_by omega

def adapt (delta written : Nat) (first : Bool) : Nat :=
  let scaled := if first then delta / 700 else delta / 2
  biasFrom 0 (scaled + scaled / written)

/-! ## Encoding -/

structure Progress where
  output : List Char
  delta : Nat
  bias : Nat
  written : Nat

def pass (basic n : Nat) (p : Progress) (c : Char) : Progress :=
  if c.toNat < n then { p with delta := p.delta + 1 }
  else if c.toNat = n then
    { output := p.output ++ number p.bias 36 p.delta
      delta := 0
      bias := adapt p.delta (p.written + 1) (p.written == basic)
      written := p.written + 1 }
  else p

def writeAll (label : List Char) (basic n : Nat) (p : Progress) : List Nat → Progress
  | [] => p
  | m :: rest =>
      let p := { p with delta := p.delta + (m - n) * (p.written + 1) }
      let p := label.foldl (pass basic m) p
      writeAll label basic (m + 1) { p with delta := p.delta + 1 } rest

def encode (label : List Char) : List Char :=
  let basic := label.filter fun c => c.toNat < 0x80
  let others := ((label.filter fun c => 0x80 ≤ c.toNat).map Char.toNat).mergeSort.eraseDups
  let start := if basic = [] then [] else basic ++ ['-']
  start ++ (writeAll label basic.length 0x80 ⟨[], 0, 72, basic.length⟩ others).output

/-! ## Decoding -/

def digitValue? (c : Char) : Option Nat :=
  let n := c.toNat
  if 0x61 ≤ n ∧ n ≤ 0x7a then some (n - 0x61)
  else if 0x30 ≤ n ∧ n ≤ 0x39 then some (n - 0x30 + 26)
  else none

def numberLimit : Nat := 0x100000000

/-- How far a decoding has come.  A number is read from its lowest digit on: `weight` is what the
next digit counts, and `start` is what the number is added to. -/
structure Reading where
  label : List Char
  character : Nat
  start : Nat
  offset : Nat
  weight : Nat
  place : Nat
  bias : Nat

namespace Reading

def ofBasic (basic : List Char) : Reading := ⟨basic, 0x80, 0, 0, 1, 36, 72⟩

def insert? (r : Reading) : Option Reading :=
  let length := r.label.length + 1
  let character := r.character + r.offset / length
  let index := r.offset % length
  if character.isValidChar then
    some {
      label := r.label.insertIdx index (Char.ofNat character)
      character
      start := index + 1
      offset := index + 1
      weight := 1
      place := 36
      bias := adapt (r.offset - r.start) length (r.start == 0) }
  else none

/-- Reads a digit.  The number ends with a digit below the threshold. -/
def read? (r : Reading) (c : Char) : Option Reading := do
  let digit ← digitValue? c
  let r := { r with offset := r.offset + digit * r.weight }
  let t := threshold r.place r.bias
  let weight := r.weight * (36 - t)
  if numberLimit ≤ r.offset then none
  else if digit < t then r.insert?
  else if numberLimit ≤ weight then none
  else some { r with weight, place := r.place + 36 }

def isDone (r : Reading) : Bool := r.place == 36

end Reading

/-- The ASCII characters of an encoding and its digits.  They are kept apart by the last dash; a
dash at the very front keeps nothing apart. -/
def split (s : List Char) : List Char × List Char :=
  let digits := (s.reverse.takeWhile (· != '-')).reverse
  let basic := (s.take (s.length - digits.length)).dropLast
  if basic = [] then ([], s) else (basic, digits)

def decode? (s : List Char) : Option (List Char) := do
  let (basic, digits) := split s
  if basic.any fun c => 0x80 ≤ c.toNat then none
  else
    let r ← digits.foldlM Reading.read? (Reading.ofBasic basic)
    if r.isDone then some r.label else none

end ProcessLaunch.Http.Punycode
