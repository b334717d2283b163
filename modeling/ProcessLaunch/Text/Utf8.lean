/-!
# UTF-8

The number of bytes that a text takes, and the reading of bytes that may not be UTF-8: a longest
beginning of a well-formed sequence that goes no further is one ill-formed piece, in whose place
stands a text of the reader's choice.  In a text for people that is one replacement character.
-/

namespace ProcessLaunch.Text

def byteLength (s : List Char) : Nat := s.foldr (fun c n => c.utf8Size + n) 0

@[simp] theorem byteLength_nil : byteLength [] = 0 := rfl

@[simp] theorem byteLength_cons (c : Char) (s : List Char) :
    byteLength (c :: s) = c.utf8Size + byteLength s := rfl

@[simp] theorem byteLength_append (s t : List Char) :
    byteLength (s ++ t) = byteLength s + byteLength t := by
  induction s with
  | nil => exact (Nat.zero_add _).symm
  | cons c s ih => rw [List.cons_append, byteLength_cons, byteLength_cons, ih, Nat.add_assoc]

def replacement : Char := '\ufffd'

/-- What a first byte announces: its own bits, how many bytes follow, and the range of the next. -/
def leadByte? (b : Nat) : Option (Nat × Nat × Nat × Nat) :=
  if b < 0x80 then some (b, 0, 0x80, 0xbf)
  else if b < 0xc2 then none
  else if b < 0xe0 then some (b - 0xc0, 1, 0x80, 0xbf)
  else if b = 0xe0 then some (0, 2, 0xa0, 0xbf)
  else if b = 0xed then some (0xd, 2, 0x80, 0x9f)
  else if b < 0xf0 then some (b - 0xe0, 2, 0x80, 0xbf)
  else if b = 0xf0 then some (0, 3, 0x90, 0xbf)
  else if b < 0xf4 then some (b - 0xf0, 3, 0x80, 0xbf)
  else if b = 0xf4 then some (4, 3, 0x80, 0x8f)
  else none

/-- Reads bytes as UTF-8, with `stray` for each ill-formed piece, inside a sequence of which `bits`
have been read, `more` bytes are to come and the next one lies between `low` and `high`; between
sequences `more` is zero. -/
def decodeFrom (stray : List Char) (bits more low high : Nat) : List UInt8 → List Char
  | [] => if more = 0 then [] else stray
  | byte :: rest =>
      let b := byte.toNat
      if more ≠ 0 ∧ low ≤ b ∧ b ≤ high then
        if more = 1 then Char.ofNat (bits * 64 + (b - 0x80)) :: decodeFrom stray 0 0 0 0 rest
        else decodeFrom stray (bits * 64 + (b - 0x80)) (more - 1) 0x80 0xbf rest
      else
        (if more = 0 then [] else stray) ++
          match leadByte? b with
          | none => stray ++ decodeFrom stray 0 0 0 0 rest
          | some (bits, 0, _, _) => Char.ofNat bits :: decodeFrom stray 0 0 0 0 rest
          | some (bits, more, low, high) => decodeFrom stray bits more low high rest

def decodeWith (stray : List Char) (bytes : List UInt8) : List Char :=
  decodeFrom stray 0 0 0 0 bytes

def decodeLossy (bytes : List UInt8) : String := String.ofList (decodeWith [replacement] bytes)

end ProcessLaunch.Text
