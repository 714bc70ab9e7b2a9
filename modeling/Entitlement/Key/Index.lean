import Entitlement.Bytes

/-!
# Field indices

A license key holds fields, each under an index from 0 to 255. The table `FieldIndex.table`
gives the known indices with their type and name. An index that a reader does not know is
either critical, and the key is refused, or skippable, and the field is passed over. Indices
in the prefixed range have the length of their field written before it, which is what makes
skipping possible. Index 255 ends the fields.
-/

namespace Entitlement

/-- The types of field values. -/
inductive FieldType where
  | bool
  | byte
  | byteBuffer
  | date
  | dateTime
  | guid
  | int16
  | int32
  | int64
  | string
deriving DecidableEq

namespace FieldType

/-- The name of a type. -/
def name : FieldType → String
  | bool => "Bool"
  | byte => "Byte"
  | byteBuffer => "ByteBuffer"
  | date => "Date"
  | dateTime => "DateTime"
  | guid => "Guid"
  | int16 => "Int16"
  | int32 => "Int32"
  | int64 => "Int64"
  | string => "String"

/-- The number of octets of a value, for the types whose values all have the same. -/
def fixedSize? : FieldType → Option Nat
  | bool | byte => some 1
  | date | int16 => some 2
  | int32 => some 4
  | dateTime | int64 => some 8
  | guid => some 16
  | byteBuffer | string => none

end FieldType

/-- The index of a field. -/
structure FieldIndex where
  value : UInt8
deriving DecidableEq

namespace FieldIndex

instance : LT FieldIndex := ⟨fun i j => i.value < j.value⟩

instance : DecidableLT FieldIndex := fun i j => inferInstanceAs (Decidable (i.value < j.value))

theorem lt_trichotomy (i j : FieldIndex) :
  i < j ∨ i = j ∨ j < i
  := by
  cases i with | mk a =>
  cases j with | mk b =>
  have h : a < b ∨ a = b ∨ b < a := by
    rw [UInt8.lt_iff_toNat_lt, UInt8.lt_iff_toNat_lt, ← UInt8.toNat_inj]
    omega
  rcases h with h | h | h
  · exact .inl h
  · exact .inr (.inl (by rw [h]))
  · exact .inr (.inr h)

theorem lt_irrefl (i : FieldIndex) :
  ¬ i < i
  := UInt8.lt_irrefl i.value

instance : Trans (α := FieldIndex) (· < ·) (· < ·) (· < ·) where
  trans {a b c} h₁ h₂ := UInt8.lt_trans (a := a.value) (b := b.value) (c := c.value) h₁ h₂

/-! ### The known indices -/

def product : FieldIndex := ⟨1⟩
def licenseType : FieldIndex := ⟨2⟩
def licenseId : FieldIndex := ⟨3⟩
def licenseGuid : FieldIndex := ⟨4⟩
def validFrom : FieldIndex := ⟨5⟩
def validTo : FieldIndex := ⟨6⟩
def licensee : FieldIndex := ⟨7⟩
def userCount : FieldIndex := ⟨8⟩
def features : FieldIndex := ⟨9⟩
def namespaceRestriction : FieldIndex := ⟨10⟩
def subscriptionEndDate : FieldIndex := ⟨11⟩
def auditable : FieldIndex := ⟨12⟩
def allowInheritance : FieldIndex := ⟨13⟩
def publicKeyToken : FieldIndex := ⟨14⟩
def signatureKeyId : FieldIndex := ⟨15⟩
def signature : FieldIndex := ⟨16⟩
def description : FieldIndex := ⟨22⟩
def issuedAt : FieldIndex := ⟨23⟩
def licenseeEmail : FieldIndex := ⟨24⟩
def comment : FieldIndex := ⟨130⟩
def minRequiredReaderVersion : FieldIndex := ⟨254⟩

/-- The index that ends the fields. -/
def endMark : FieldIndex := ⟨255⟩

/-- The known indices with the type and the name of their fields. -/
def table : List (FieldIndex × FieldType × String) :=
  [(product, .int16, "Product"), (licenseType, .byte, "LicenseType"),
    (licenseId, .int32, "LicenseId"), (licenseGuid, .guid, "LicenseGuid"),
    (validFrom, .date, "ValidFrom"), (validTo, .date, "ValidTo"),
    (licensee, .string, "Licensee"), (userCount, .int16, "UserCount"),
    (features, .int64, "Features"), (namespaceRestriction, .string, "NamespaceRestriction"),
    (subscriptionEndDate, .date, "SubscriptionEndDate"), (auditable, .bool, "Auditable"),
    (allowInheritance, .bool, "AllowInheritance"),
    (publicKeyToken, .byteBuffer, "PublicKeyToken"), (signatureKeyId, .byte, "SignatureKeyId"),
    (signature, .byteBuffer, "Signature"), (description, .string, "Description"),
    (issuedAt, .dateTime, "IssuedAt"), (licenseeEmail, .string, "LicenseeEmail"),
    (comment, .string, "Comment"),
    (minRequiredReaderVersion, .int16, "MinRequiredReaderVersion")]

/-- The type and name of an index in the table. -/
def entry? (i : FieldIndex) : Option (FieldType × String) :=
  (table.find? fun e => e.1 = i).map (·.2)

/-- The type of the fields under a known index. -/
def type? (i : FieldIndex) : Option FieldType :=
  i.entry?.map (·.1)

/-- The name of a known index. -/
def name? (i : FieldIndex) : Option String :=
  i.entry?.map (·.2)

/-- A reader that does not know the index has to refuse the key. -/
def isCritical (i : FieldIndex) : Bool :=
  !(128 < i.value && i.value ≤ 253)

/-- The length of the field is written before it. -/
def isPrefixed (i : FieldIndex) : Bool :=
  21 < i.value && i.value ≤ 253

/-- The name of the index, or `field`, with the number after it. -/
def toText (i : FieldIndex) : String :=
  i.name?.getD "field" ++ "(" ++ toString i.value.toNat ++ ")"

example : endMark.type? = none := by decide

/-- Each index is in the table once. -/
example : (table.map fun e => e.1).Nodup := by decide

end FieldIndex

end Entitlement
