import Entitlement.Evaluation.Eligibility
import Entitlement.License.Builder
import Entitlement.Store.Configuration
import Entitlement.Store.Lock
import Entitlement.Store.Options
import Entitlement.Trust.Issuer

/-!
# Registering evaluations

A `Registrar` issues evaluation licenses, one for each evaluation. `Registrar.register`
looks at the record; if a new evaluation may start, it issues a license, adds it to the
store unless another evaluation license is active there, and notes the license in the
record. While an evaluation lasts, it finds the license in the store.

The store is read and written under a lock, as one step. The record is read before that
step and written after it. What cannot be noted in the record is not an error.
-/

namespace Entitlement

/-- What comes of a registration. -/
inductive Outcome where
  /-- The license with the key was added to the store. -/
  | registered (key : String)
  /-- The license with the key was in the store. -/
  | alreadyRegistered (key : String)
  | ineligible (e : Eligibility)
deriving DecidableEq

namespace Outcome

/-- The key of the license in the store. -/
def key? : Outcome → Option String
  | registered key | alreadyRegistered key => some key
  | ineligible _ => none

/-- There is an evaluation license in the store. -/
def isRegistered (o : Outcome) : Bool := o.key?.isSome

end Outcome

/-- What issues evaluation licenses. -/
structure Registrar where
  trust : TrustPolicy
  issuer : Issuer
  options : Options
  /-- Locks can be had. -/
  lockUsable : Bool := true

namespace Registrar

/-- The number of days of an evaluation. -/
def evaluationDays (r : Registrar) : Nat := r.options.evaluationDays.toNat

/-- The number of days after an evaluation until the next one may start. -/
def cooldownDays (r : Registrar) : Nat := r.options.cooldownDays.toNat

/-- Tries an action on files as often as the settings say. -/
def retry {α : Type} (r : Registrar) (act : FileAction α) : FileAction α :=
  r.options.retryPolicy.run act

/-! ### The steps of a registration -/

/-- Whether a new evaluation may start on the day. -/
def eligibility (r : Registrar) (today : Date) : StateM Files Eligibility := do
  if (← get).record.isNone then
    return .eligible
  match ← (r.retry (Files.read .record)).run with
  | .error _ => return .blocked .unreadable
  | .ok text => return .ofRecord r.trust r.cooldownDays today text

/-- A new evaluation may start on the day. -/
def isEligible (r : Registrar) (today : Date) : StateM Files Bool :=
  return (← r.eligibility today).isEligible

/-- The key is one of an evaluation license that is valid on the day. -/
def isActive (r : Registrar) (today : Date) (key : String) : Bool :=
  match Eligibility.registrationOf r.trust key with
  | .ok d => d.kind = .evaluation && d.isValidOn today
  | .error _ => false

/-- The first key in a store that is active on the day. -/
def findActive? (r : Registrar) (today : Date) (c : Configuration) : Option String :=
  c.keys.find? (r.isActive today)

/-- The lock of the store. -/
def lockStore (r : Registrar) : Except LicenseError String :=
  Lock.acquire r.lockUsable r.options.licenseStorePath

/-- The key in the store that is active on the day. -/
def findRegistered (r : Registrar) (today : Date) : FileAction (Option String) := do
  let _ ← r.lockStore
  let c ← r.retry Configuration.load
  return r.findActive? today c

/-- Adds a key to the store, unless there is one that is active on the day. -/
def enter (r : Registrar) (today : Date) (key : String) : FileAction Outcome := do
  let c ← Configuration.load
  match r.findActive? today c with
  | some other => return .alreadyRegistered other
  | none =>
    ((c.add? key).getD c).save
    return .registered key

/-- Adds a key to the store under its lock, unless there is one that is active on the
day. -/
def store (r : Registrar) (today : Date) (key : String) : FileAction Outcome := do
  let _ ← r.lockStore
  r.retry (r.enter today key)

/-- Puts a key into the record. -/
def note (key : String) : FileAction Unit := do
  Files.makeFolder
  Files.write .record (EvaluationRecord.text ⟨some key⟩)

/-- Puts a key into the record if that is possible. -/
def noteRegistered (r : Registrar) (key : String) : StateM Files Unit := do
  let _ ← (r.retry (note key)).run

/-- What an evaluation license contains. -/
def spec (now : Instant) (validTo : Date) (guid : Guid) : LicenseSpec where
  kind := .evaluation
  licenseGuid := some guid
  validFrom := some now.day
  validTo := some validTo
  features := some .all
  issuedAt := some now
  description := some "Evaluation License"

variable [SignatureScheme]

/-- The registrar with a policy that also trusts its issuer. -/
def trustingIssuer (r : Registrar) : Registrar :=
  { r with trust := r.trust.insertKey r.issuer.id r.issuer.publicKey }

/-- The key of a new evaluation license. -/
def issue (r : Registrar) (now : Instant) (guid : Guid) : Except LicenseError String := do
  match now.day.addDays? r.evaluationDays with
  | none => throw (.invalidPayload .evaluationOutOfRange)
  | some validTo =>
    let p ← LicenseError.ofKey (spec now validTo guid).payload
    r.issuer.issue .current p

/-! ### Registrations -/

/-- Registers an evaluation license if a new evaluation may start, with the guid if the
license is new. -/
def register (r : Registrar) (now : Instant) (guid : Guid) : FileAction Outcome := do
  match ← r.eligibility now.day with
  | .eligible =>
    let key ← r.issue now guid
    let outcome ← r.store now.day key
    if let some key := outcome.key? then
      r.noteRegistered key
    return outcome
  | .withinEvaluation validTo =>
    match ← r.findRegistered now.day with
    | some key => return .alreadyRegistered key
    | none => return .ineligible (.withinEvaluation validTo)
  | e => return .ineligible e

end Registrar

end Entitlement
