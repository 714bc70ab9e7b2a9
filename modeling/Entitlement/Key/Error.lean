import Entitlement.Key.Value
import Entitlement.Text.Quoted

/-!
# What is wrong with a license key

`KeyError` lists the reasons for which a text is not a license key, or for which fields
cannot be written as one. `KeyError.message` words them.
-/

namespace Entitlement

/-- Why a field cannot have a value. -/
inductive ValueFault where
  /-- The index is not in the table of fields. -/
  | untyped
  /-- The date is not among those a key can name. -/
  | dateOutOfRange (d : Date)
  /-- The calendar has no such instant. -/
  | timestampOutOfRange (millis : Int)
  /-- The octet is neither 0 nor 1. -/
  | notBoolean (octet : UInt8)
deriving DecidableEq

/-- The wording of a fault. -/
def ValueFault.message : ValueFault → String
  | untyped => "index has no value type"
  | dateOutOfRange d => s!"date {d} is outside the representable range"
  | timestampOutOfRange millis => s!"timestamp {millis} is out of range"
  | notBoolean octet => s!"{octet.toNat} is not a boolean"

/-- Why a text is not a license key, or why fields cannot be written as one. -/
inductive KeyError where
  /-- A field that a reader must know, and this one does not. -/
  | unknownCriticalField (index : FieldIndex)
  | duplicateField (index : FieldIndex)
  /-- The octets end inside a field, or before the end mark. -/
  | truncated
  /-- Octets follow the end mark. -/
  | trailingBytes (count : Nat)
  /-- The length before a field is not that of its value. -/
  | invalidLength (index : FieldIndex) (declared expected : Nat)
  /-- The character is not a symbol of key texts. -/
  | invalidSymbol (c : Char)
  | invalidUtf8 (index : FieldIndex)
  | invalidValue (index : FieldIndex) (fault : ValueFault)
  | typeMismatch (index : FieldIndex) (expected actual : FieldType)
  | valueTooLong (index : FieldIndex) (length limit : Nat)
  /-- The text has no part in front of a dash. -/
  | missingVersion
  | unsupportedVersion (text : String)
  /-- The key asks for a later version of its reader. -/
  | readerTooOld (required supported : Int16)
deriving DecidableEq

/-- The wording of an error. -/
def KeyError.message : KeyError → String
  | unknownCriticalField i => s!"unknown critical field {i.value.toNat}"
  | duplicateField i => s!"duplicate field {i.value.toNat}"
  | truncated => "license key payload is truncated"
  | trailingBytes n => s!"unexpected {n} trailing bytes after end marker"
  | invalidLength i declared expected =>
    s!"field {i.value.toNat} declares length {declared}, expected {expected}"
  | invalidSymbol c => s!"invalid character {Text.Quoted.character c} in license key"
  | invalidUtf8 i => s!"field {i.value.toNat} is not valid UTF-8"
  | invalidValue i fault => s!"invalid value for field {i.value.toNat}: {fault.message}"
  | typeMismatch i expected actual =>
    s!"field {i.value.toNat} expects {expected.name}, got {actual.name}"
  | valueTooLong i length limit =>
    s!"field {i.value.toNat} is {length} bytes long, the limit is {limit}"
  | missingVersion => "license key has no format version prefix"
  | unsupportedVersion text => s!"unsupported license key format version {text}"
  | readerTooOld required supported =>
    s!"license key requires reader version {required}, this reader is version {supported}"

end Entitlement
