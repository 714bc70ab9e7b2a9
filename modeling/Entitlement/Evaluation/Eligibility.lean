import Entitlement.Evaluation.Record
import Entitlement.License.Basic

/-!
# Eligibility

`Eligibility` says whether a new evaluation may start. The record of the last one decides:
an evaluation lasts until the last day of its license, and after it a number of days must
pass. Who has no record has not evaluated before; a record that names no dated evaluation
license blocks every further evaluation.
-/

namespace Entitlement

/-- What is wrong with a record. -/
inductive RecordFault where
  | unreadable
  /-- It is not of the form it should have. -/
  | malformed
  | withoutLicense
  | invalidLicense
  | otherKind
  | undated
  /-- The last day of the waiting time is after the last day of the calendar. -/
  | beyondCalendar
deriving DecidableEq

/-- The wording of a fault. -/
def RecordFault.message : RecordFault → String
  | unreadable => "the evaluation record cannot be read"
  | malformed => "the evaluation record is malformed"
  | withoutLicense => "the evaluation record holds no license"
  | invalidLicense => "the evaluation record holds an invalid license"
  | otherKind => "the evaluation record holds a non-evaluation license"
  | undated => "the evaluation record holds an undated license"
  | beyondCalendar => "the evaluation record is dated beyond the calendar"

/-- Whether a new evaluation may start. -/
inductive Eligibility where
  | eligible
  /-- An evaluation lasts until the day. -/
  | withinEvaluation (validTo : Date)
  /-- An evaluation has ended, and a new one may start after the day. -/
  | withinCooldown (eligibleAfter : Date)
  | blocked (fault : RecordFault)
deriving DecidableEq

namespace Eligibility

/-- A new evaluation may start. -/
def isEligible (e : Eligibility) : Bool := e = eligible

/-- Why no new evaluation may start. -/
def reason? : Eligibility → Option String
  | eligible => none
  | withinEvaluation d => some s!"an evaluation license is active until {d}"
  | withinCooldown d => some s!"try again after {d}"
  | blocked fault => some fault.message

/-- The wording of an eligibility. -/
def message (e : Eligibility) : String := e.reason?.getD "eligible"

/-! ### From the record -/

/-- The eligibility when the last evaluation license is valid up to a day. -/
def ofValidTo (cooldown : Nat) (today validTo : Date) : Eligibility :=
  if today ≤ validTo then withinEvaluation validTo
  else match validTo.addDays? cooldown with
    | none => blocked .beyondCalendar
    | some after => if today ≤ after then withinCooldown after else eligible

/-- The eligibility when the record names a license. -/
def ofRegistration (cooldown : Nat) (today : Date) (r : Registration) : Eligibility :=
  if r.kind ≠ .evaluation then blocked .otherKind
  else match r.validTo with
    | none => blocked .undated
    | some validTo => ofValidTo cooldown today validTo

/-- The description of the license that a key stands for. -/
def registrationOf (trust : TrustPolicy) (key : String) : Except LicenseError Registration := do
  let l ← License.ofText trust key
  l.registration

/-- The eligibility by the text of the record. -/
def ofRecord (trust : TrustPolicy) (cooldown : Nat) (today : Date) (text : String) :
    Eligibility :=
  match EvaluationRecord.ofText? text with
  | none => blocked .malformed
  | some ⟨none⟩ => blocked .withoutLicense
  | some ⟨some key⟩ =>
    match registrationOf trust key with
    | .error _ => blocked .invalidLicense
    | .ok r => ofRegistration cooldown today r

end Eligibility

end Entitlement
