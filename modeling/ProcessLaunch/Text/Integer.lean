/-!
# Decimal integers

An integer is written as at most one sign and at least one ASCII digit.  The reader is exact at
every length: it computes the number that the digits denote and compares it with the bounds.
-/

namespace ProcessLaunch.Text

def digitsFrom? (value : Nat) : List Char → Option Nat
  | [] => some value
  | c :: rest => if c.isDigit then digitsFrom? (value * 10 + (c.toNat - 0x30)) rest else none

def natural? : List Char → Option Nat
  | [] => none
  | c :: rest => digitsFrom? 0 (c :: rest)

def integer? : List Char → Option Int
  | '+' :: rest => (natural? rest).map Int.ofNat
  | '-' :: rest => (natural? rest).map fun n => -Int.ofNat n
  | s => (natural? s).map Int.ofNat

def integer32? (s : List Char) : Option Int :=
  (integer? s).filter fun n => -2147483648 ≤ n && n ≤ 2147483647

end ProcessLaunch.Text
