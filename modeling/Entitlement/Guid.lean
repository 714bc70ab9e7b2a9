import Entitlement.Bytes

/-!
# Guids

A `Guid` is an identifier of sixteen octets, written as five groups of lowercase
hexadecimal digits. `Guid.random` makes a random identifier out of sixteen random octets
by setting the bits that mark its version and variant.
-/

namespace Entitlement

/-- An identifier of sixteen octets. -/
structure Guid where
  /-- The octets, in the order in which they are written. -/
  octets : Bytes
  length_octets : octets.length = 16
deriving DecidableEq

namespace Guid

/-- The identifier with the given octets, if there are sixteen. -/
def ofBytes? (bs : Bytes) : Option Guid :=
  if h : bs.length = 16 then some ⟨bs, h⟩ else none

/-- The octets in groups of 8, 4, 4, 4 and 12 hexadecimal digits. -/
def toText (g : Guid) : String :=
  let part (i n : Nat) := Bytes.hex ((g.octets.drop i).take n)
  "-".intercalate [part 0 4, part 4 2, part 6 2, part 8 2, part 10 6]

/-- Octet `i` of an identifier of version 4: the seventh carries the version, the ninth
the variant, and all others are free. -/
def mark (i : Nat) (b : UInt8) : UInt8 :=
  if i = 6 then (b &&& 0x0f) ||| 0x40
  else if i = 8 then (b &&& 0x3f) ||| 0x80
  else b

/-- The identifier of version 4 made of sixteen random octets. -/
def random (g : Guid) : Guid :=
  ⟨g.octets.mapIdx mark, by simp [g.length_octets]⟩

end Guid

end Entitlement
