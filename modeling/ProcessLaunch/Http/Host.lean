import ProcessLaunch.Http.Domain
import ProcessLaunch.Http.Percent
import ProcessLaunch.Text.Integer

/-!
# Hosts

The host of a URL is a name or an address, of four bytes or of eight groups.  A name that ends in a
number has to be an address.
-/

namespace ProcessLaunch.Http

inductive Host where
  | empty
  | domain (name : List Char)
  | ipv4 (address : Nat)
  | ipv6 (groups : List Nat)
deriving DecidableEq, Repr

/-! ## Addresses of four bytes -/

def numberInBase? (base : Nat) : List Char → Option Nat :=
  List.foldlM (fun n c => do
    let value ← Text.hexValue? c
    if value < base then some (n * base + value) else none) 0

/-- A part of an address: it may be hexadecimal, or octal with a leading zero. -/
def addressPart? : List Char → Option Nat
  | [] => none
  | '0' :: 'x' :: digits => numberInBase? 16 digits
  | '0' :: 'X' :: digits => numberInBase? 16 digits
  | '0' :: digit :: digits => numberInBase? 8 (digit :: digits)
  | digits => numberInBase? 10 digits

def nameParts (name : List Char) : List (List Char) :=
  match (Text.pieces '.' name).reverse with
  | [] :: parts => parts.reverse
  | parts => parts.reverse

def endsInNumber (name : List Char) : Bool :=
  match (nameParts name).getLast? with
  | some part => (addressPart? part).isSome || (part != [] && part.all Char.isDigit)
  | none => false

/-- The address of parts: all but the last are bytes, and the last fills what is left. -/
def addressOf? : List Nat → Option Nat
  | [] => none
  | parts =>
      let front := parts.dropLast
      let last := parts.getLastD 0
      if parts.length ≤ 4 ∧ (∀ n ∈ front, n ≤ 255) ∧ last < Nat.pow 256 (4 - front.length) then
        some (front.foldl (fun n byte => n * 256 + byte) 0 * Nat.pow 256 (4 - front.length) + last)
      else none

def ipv4? (name : List Char) : Option Host := do
  let parts ← (nameParts name).mapM addressPart?
  return .ipv4 (← addressOf? parts)

def dotted (address : Nat) : List Char :=
  ['.'].intercalate
    ([address / 0x1000000, address / 0x10000, address / 0x100, address].map fun n =>
      Nat.toDigits 10 (n % 256))

/-! ## Addresses of eight groups -/

def group? (s : List Char) : Option Nat :=
  if s ≠ [] ∧ s.length ≤ 4 then numberInBase? 16 s else none

def byte? (s : List Char) : Option Nat := do
  let n ← Text.natural? s
  if n ≤ 255 ∧ Nat.toDigits 10 n = s then some n else none

def dottedGroups? (s : List Char) : Option (List Nat) :=
  match (Text.pieces '.' s).mapM byte? with
  | some [a, b, c, d] => some [a * 256 + b, c * 256 + d]
  | _ => none

/-- The groups between colons.  In place of the last two there may be four bytes, if nothing
follows. -/
def groups? (dotted : Bool) (s : List Char) : Option (List Nat) :=
  if s = [] then some []
  else
    let all := Text.pieces ':' s
    let last := all.getLastD []
    if dotted ∧ last.contains '.' then do
      let front ← all.dropLast.mapM group?
      return front ++ (← dottedGroups? last)
    else all.mapM group?

def atGap? : List Char → Option (List Char × List Char)
  | ':' :: ':' :: rest => some ([], rest)
  | c :: rest => (atGap? rest).map fun (left, right) => (c :: left, right)
  | [] => none

/-- The address that a text denotes.  A pair of colons stands for at least one group of zero. -/
def ipv6? (s : List Char) : Option Host :=
  match atGap? s with
  | none => do
      let all ← groups? true s
      if all.length = 8 then some (.ipv6 all) else none
  | some (left, right) => do
      let left ← groups? false left
      let right ← groups? true right
      let missing := 8 - (left.length + right.length)
      if 0 < missing then some (.ipv6 (left ++ List.replicate missing 0 ++ right)) else none

def leadingZeros (groups : List Nat) : Nat := (groups.takeWhile (· == 0)).length

/-- The place and the length of the first longest run of zeros. -/
def longestZeros (groups : List Nat) : Nat × Nat :=
  (List.range groups.length).foldl
    (fun best place =>
      let length := leadingZeros (groups.drop place)
      if length > best.2 then (place, length) else best)
    (0, 0)

def joinGroups (groups : List Nat) : List Char := [':'].intercalate (groups.map (Nat.toDigits 16))

/-- The text of an address: a pair of colons stands for its longest run of at least two zeros. -/
def groupsText (groups : List Nat) : List Char :=
  let (place, length) := longestZeros groups
  if length < 2 then joinGroups groups
  else joinGroups (groups.take place) ++ [':', ':'] ++ joinGroups (groups.drop (place + length))

/-! ## Names -/

def isForbidden (c : Char) : Bool :=
  ['\x00', '\t', '\n', '\r', ' ', '#', '/', ':', '<', '>', '?', '@', '[', '\\', ']', '^',
    '|'].contains c

def isForbiddenInDomain (c : Char) : Bool :=
  isForbidden c || c.toNat < 0x20 || c = '%' || c.toNat = 0x7f

def domain? (s : List Char) : Option Host := do
  let text ← String.fromUTF8? ⟨(percentDecode s).toArray⟩
  let name ← Domain.ascii? text.toList
  if name = [] ∨ name.any isForbiddenInDomain then none
  else if endsInNumber name then ipv4? name
  else some (.domain name)

def bracketed? (s : List Char) : Option Host :=
  if s.getLast? = some ']' then ipv6? s.dropLast else none

namespace Host

def parse? (special : Bool) (s : List Char) : Option Host :=
  match s with
  | [] => if special then none else some .empty
  | '[' :: rest => bracketed? rest
  | _ =>
      if special then domain? s
      else if s.any isForbidden then none
      else some (.domain (percentEncode isControl s))

def text : Host → List Char
  | empty => []
  | domain name => name
  | ipv4 address => dotted address
  | ipv6 groups => '[' :: groupsText groups ++ [']']

end Host

end ProcessLaunch.Http
