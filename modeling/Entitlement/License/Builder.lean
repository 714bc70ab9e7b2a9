import Entitlement.Key.Payload
import Entitlement.License.Kind

/-!
# Descriptions of licenses

A `LicenseSpec` says what a license is to contain, and `LicenseSpec.payload` puts that into
the fields of a license key. Everything but the kind may be left out.
-/

namespace Entitlement

/-- What a license is to contain. -/
structure LicenseSpec where
  kind : LicenseKind
  product : Option Int16 := none
  licenseId : Option Int32 := none
  licenseGuid : Option Guid := none
  validFrom : Option Date := none
  validTo : Option Date := none
  subscriptionEndDate : Option Date := none
  licensee : Option String := none
  licenseeEmail : Option String := none
  description : Option String := none
  userCount : Option Int16 := none
  features : Option Features := none
  namespaceRestriction : Option String := none
  issuedAt : Option Instant := none
  comment : Option String := none
  minReaderVersion : Option Int16 := none

namespace LicenseSpec

/-- The fields that are given, with their indices. -/
def fields (s : LicenseSpec) : List (FieldIndex × FieldValue) :=
  (.licenseType, .byte s.kind.code) ::
    [s.product.map fun v => (.product, .int16 v),
      s.licenseId.map fun v => (.licenseId, .int32 v),
      s.licenseGuid.map fun v => (.licenseGuid, .guid v),
      s.validFrom.map fun v => (.validFrom, .date v),
      s.validTo.map fun v => (.validTo, .date v),
      s.subscriptionEndDate.map fun v => (.subscriptionEndDate, .date v),
      s.licensee.map fun v => (.licensee, .string v),
      s.licenseeEmail.map fun v => (.licenseeEmail, .string v),
      s.description.map fun v => (.description, .string v),
      s.userCount.map fun v => (.userCount, .int16 v),
      s.features.map fun v => (.features, .int64 v.bits.toInt64),
      s.namespaceRestriction.map fun v => (.namespaceRestriction, .string v),
      s.issuedAt.map fun v => (.issuedAt, .dateTime v),
      s.comment.map fun v => (.comment, .string v),
      s.minReaderVersion.map fun v => (.minRequiredReaderVersion, .int16 v)].reduceOption

/-- The fields of the license key. -/
def payload (s : LicenseSpec) : Except KeyError Payload :=
  Payload.empty.setAll s.fields

end LicenseSpec

end Entitlement
