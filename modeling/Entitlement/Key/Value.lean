import Entitlement.Calendar.Instant
import Entitlement.Guid
import Entitlement.Key.Index

/-!
# Field values

A `FieldValue` is the value of one field of a license key, of one of the types of
`FieldType`.
-/

namespace Entitlement

/-- The value of a field. -/
inductive FieldValue where
  | bool (v : Bool)
  | byte (v : UInt8)
  | byteBuffer (v : Bytes)
  | date (v : Date)
  | dateTime (v : Instant)
  | guid (v : Guid)
  | int16 (v : Int16)
  | int32 (v : Int32)
  | int64 (v : Int64)
  | string (v : String)
deriving DecidableEq

namespace FieldValue

/-- The type of a value. -/
def type : FieldValue → FieldType
  | bool _ => .bool
  | byte _ => .byte
  | byteBuffer _ => .byteBuffer
  | date _ => .date
  | dateTime _ => .dateTime
  | guid _ => .guid
  | int16 _ => .int16
  | int32 _ => .int32
  | int64 _ => .int64
  | string _ => .string

/-- The value that a key keeps of a value: instants lose what is below the millisecond. -/
def kept : FieldValue → FieldValue
  | dateTime t => .dateTime t.floorMillis
  | v => v

theorem type_kept (v : FieldValue) :
  v.kept.type = v.type
  := by
  cases v <;> rfl

end FieldValue

end Entitlement
