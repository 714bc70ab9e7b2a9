import Entitlement.Json.Fields

/-!
# The evaluation record

The record keeps the key of the last evaluation license that was registered, apart from
the store of licenses, so that a license that was removed from the store still counts. Its
text has one field; a record may also be without a key.
-/

namespace Entitlement

/-- What is known about the last evaluation. -/
structure EvaluationRecord where
  licenseKey : Option String
deriving DecidableEq

namespace EvaluationRecord

/-- The record that a text describes. -/
def ofText? (s : String) : Option EvaluationRecord := do
  let ms ← Json.document? (Json.fields ["licenseKey"] 1) s
  let licenseKey ← Json.field? ms "licenseKey" none Json.stringOrNull?
  return ⟨licenseKey⟩

/-- The text of a record. -/
def text (r : EvaluationRecord) : String :=
  (Json.object [("licenseKey", r.licenseKey.elim .null .string)]).pretty

end EvaluationRecord

end Entitlement
