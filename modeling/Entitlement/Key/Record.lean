import Entitlement.Key.Payload

/-!
# Records

A field is written as a record: its index, then, for an index in the prefixed range, the
length of the value in octets, then the value. Numbers are written with the least
significant octet first; a date as the number of days since the first one that a key can
name; an instant as its milliseconds; a text or octet string with its own length before it.

A payload is written as its records in the order of their indices, except that the
signature stands last, and an end mark. What stands before the signature is what is signed.
-/

namespace Entitlement

/-! ### Writing a value -/

/-- The most octets that a text or octet string under the index can have. -/
def FieldIndex.contentLimit (i : FieldIndex) : Nat :=
  if i.isPrefixed then 254 else 255

/-- Octets with their number before them. -/
def Bytes.counted (i : FieldIndex) (bs : Bytes) : Except KeyError Bytes :=
  if bs.length ≤ i.contentLimit then .ok (UInt8.ofNat bs.length :: bs)
  else .error (.valueTooLong i bs.length i.contentLimit)

/-- The number of days from the first date that a key can name. -/
def Date.keyDays? (d : Date) : Option Nat :=
  if Date.keyEpoch ≤ d ∧ d ≤ Date.keyLast then some (d.day - Date.keyEpoch.day).toNat else none

/-- The octets of the value of the field under an index. -/
def FieldValue.write (i : FieldIndex) : FieldValue → Except KeyError Bytes
  | .bool v => .ok [if v then 1 else 0]
  | .byte v => .ok [v]
  | .byteBuffer v => Bytes.counted i v
  | .date v =>
    match v.keyDays? with
    | some n => .ok (Bytes.littleEndian 2 n)
    | none => .error (.invalidValue i (.dateOutOfRange v))
  | .dateTime v => .ok (Bytes.littleEndian 8 (Int64.ofInt v.millis).toUInt64.toNat)
  | .guid v => .ok v.octets
  | .int16 v => .ok (Bytes.littleEndian 2 v.toUInt16.toNat)
  | .int32 v => .ok (Bytes.littleEndian 4 v.toUInt32.toNat)
  | .int64 v => .ok (Bytes.littleEndian 8 v.toUInt64.toNat)
  | .string v => Bytes.counted i (Bytes.ofText v)

/-! ### Writing records -/

/-- The record of a field. -/
def FieldIndex.record (i : FieldIndex) (v : FieldValue) : Except KeyError Bytes :=
  if i.type? = some v.type then do
    let body ← v.write i
    return if i.isPrefixed then i.value :: UInt8.ofNat body.length :: body else i.value :: body
  else .error (i.mismatch v)

/-- The records of fields one after the other. -/
def writeRecords : List (FieldIndex × FieldValue) → Except KeyError Bytes
  | [] => .ok []
  | f :: fs => do
    let first ← f.1.record f.2
    let rest ← writeRecords fs
    return first ++ rest

namespace Payload

/-- The octets that a signature is made for: all records but the signature. -/
def signable (p : Payload) : Except KeyError Bytes :=
  writeRecords (p.fields.filter fun f => f.1 ≠ .signature)

/-- The octets of a payload. -/
def encode (p : Payload) : Except KeyError Bytes := do
  let front ← p.signable
  let last ← writeRecords (p.fields.filter fun f => f.1 = .signature)
  return front ++ last ++ [FieldIndex.endMark.value]

end Payload

end Entitlement
