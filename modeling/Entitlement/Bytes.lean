/-!
# Bytes

Byte strings are lists of octets. `Bytes.littleEndian w n` writes the number `n` in `w`
octets, the least significant first, and `Bytes.ofLittleEndian` reads such a number; the
two agree modulo `256 ^ w`. `Bytes.hex` writes two lowercase digits for each octet and
`Bytes.ofHex?` reads them back.
-/

namespace Entitlement

/-- A string of octets. -/
abbrev Bytes := List UInt8

namespace Bytes

/-! ### Numbers -/

/-- The `w` least significant octets of `n`, the least significant first. -/
def littleEndian : (w : Nat) → (n : Nat) → Bytes
  | 0, _ => []
  | w + 1, n => UInt8.ofNat (n % 256) :: littleEndian w (n / 256)

/-- The number whose octets are given, the least significant first. -/
def ofLittleEndian : Bytes → Nat
  | [] => 0
  | b :: bs => b.toNat + 256 * ofLittleEndian bs

@[simp]
theorem length_littleEndian (w n : Nat) :
  (littleEndian w n).length = w
  := by
  induction w generalizing n with
  | zero => rfl
  | succ w ih => simp [littleEndian, ih]

theorem ofLittleEndian_littleEndian (w n : Nat) :
  ofLittleEndian (littleEndian w n) = n % Nat.pow 256 w
  := by
  induction w generalizing n with
  | zero => simp [littleEndian, ofLittleEndian, Nat.mod_one]
  | succ w ih =>
    have h : (UInt8.ofNat (n % 256)).toNat = n % 256 := by simp
    simp only [littleEndian, ofLittleEndian, ih, h]
    rw [show Nat.pow 256 (w + 1) = 256 * Nat.pow 256 w from Nat.mul_comm _ _, Nat.mod_mul]

theorem ofLittleEndian_lt (bs : Bytes) :
  ofLittleEndian bs < Nat.pow 256 bs.length
  := by
  induction bs with
  | nil => simp [ofLittleEndian]
  | cons b bs ih =>
    have hb : b.toNat < 256 := b.toNat_lt
    have hp : Nat.pow 256 (bs.length + 1) = 256 * Nat.pow 256 bs.length := Nat.mul_comm _ _
    simp only [ofLittleEndian, List.length_cons, hp]
    omega

theorem littleEndian_ofLittleEndian (bs : Bytes) :
  littleEndian bs.length (ofLittleEndian bs) = bs
  := by
  induction bs with
  | nil => rfl
  | cons b bs ih =>
    have hb : b.toNat < 256 := b.toNat_lt
    have hm : (b.toNat + 256 * ofLittleEndian bs) % 256 = b.toNat := by omega
    have hd : (b.toNat + 256 * ofLittleEndian bs) / 256 = ofLittleEndian bs := by omega
    simp [ofLittleEndian, littleEndian, hm, hd, ih]

/-! ### Hexadecimal text -/

/-- The lowercase digit of a number below sixteen. -/
def hexDigit (n : Nat) : Char :=
  if n < 10 then Char.ofNat (48 + n) else Char.ofNat (87 + n)

/-- The value of a hexadecimal digit of either case. -/
def hexValue? (c : Char) : Option Nat :=
  if '0' ≤ c ∧ c ≤ '9' then some (c.toNat - 48)
  else if 'a' ≤ c ∧ c ≤ 'f' then some (c.toNat - 87)
  else if 'A' ≤ c ∧ c ≤ 'F' then some (c.toNat - 55)
  else none

/-- The two digits of an octet. -/
def hexPair (b : UInt8) : List Char :=
  [hexDigit (b.toNat / 16), hexDigit (b.toNat % 16)]

/-- Two lowercase hexadecimal digits for each octet. -/
def hex (bs : Bytes) : String :=
  String.ofList (bs.flatMap hexPair)

/-- The octets that pairs of hexadecimal digits stand for. -/
def ofHexDigits? : List Char → Option Bytes
  | [] => some []
  | [_] => none
  | a :: b :: cs => do
    let high ← hexValue? a
    let low ← hexValue? b
    let rest ← ofHexDigits? cs
    return UInt8.ofNat (16 * high + low) :: rest

/-- The octets of a text of hexadecimal digits. -/
def ofHex? (s : String) : Option Bytes :=
  ofHexDigits? s.toList

/-! ### Text -/

/-- The UTF-8 octets of a text. -/
def ofText (s : String) : Bytes :=
  s.toUTF8.data.toList

/-- The text whose UTF-8 octets are given. -/
def toText? (bs : Bytes) : Option String :=
  String.fromUTF8? ⟨bs.toArray⟩

theorem toText?_ofText (s : String) :
  toText? (ofText s) = some s
  := by
  simp only [toText?, ofText, Array.toArray_toList]
  unfold String.fromUTF8?
  split
  · rfl
  · rename_i h
    exact absurd (ByteArray.validateUTF8_eq_true_iff.2 s.isValidUTF8) (by simpa using h)

end Bytes

end Entitlement
