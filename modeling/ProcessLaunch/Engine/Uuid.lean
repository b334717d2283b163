import ProcessLaunch.Engine.Registry
import ProcessLaunch.Text.Hex

/-!
# Random ids

An id of sixteen random bytes, of which six bits say that it is random.
-/

namespace ProcessLaunch.Uuid

def marked (bytes : List UInt8) : List Nat :=
  (bytes.map UInt8.toNat).mapIdx fun place byte =>
    if place = 6 then 0x40 + byte % 0x10 else if place = 8 then 0x80 + byte % 0x40 else byte

def text (bytes : List UInt8) : String :=
  String.ofList ((marked bytes).mapIdx (fun place byte =>
    (if place ∈ [4, 6, 8, 10] then ['-'] else []) ++
      [Text.hexDigit (byte / 16), Text.hexDigit byte])).flatten

def size : Nat := 16

def supply (random : List UInt8) : IdSupply :=
  ⟨fun n => text ((random.drop ((n - 1) * size)).take size), 0⟩

end ProcessLaunch.Uuid
