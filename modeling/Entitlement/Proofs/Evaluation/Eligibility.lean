import Entitlement.Proofs.Evaluation.Window

/-!
# Eligibility by the record

Without a record a new evaluation may start. A record with a dated evaluation license lets an
evaluation run up to the last day, then makes the user wait, and then allows a new evaluation
for good; when the end of the waiting time is beyond the calendar, it allows none. Any other
record blocks all evaluations, and has one of the faults of `EvaluationRecord.HasFault`. So
nothing that is wrong with a record brings a new evaluation, and one that may start on a day
may start on all days after it (`Registrar.eligibility_of_canRead`).
-/

namespace Entitlement

open EvaluationRecord

namespace Registrar

/-- The record is read if there is one, with the contents that it has. -/
structure CanRead (r : Registrar) (f : Files) : Prop where
  leaves : f.Leaves .record
  read : ∀ text, f.record = some text →
    ∀ e, ((r.retry (Files.read .record)).run.run f).1 ≠ .error e

theorem CanRead.of_calm {f : Files} (h : f.Calm) (r : Registrar) :
  r.CanRead f
  where
  leaves := h.leaves .record
  read := by
    intro text htext e
    have hretry : (r.retry (Files.read .record)).Ends f (.ok text) _ :=
      h.ends_retry_read .record htext _
    rw [hretry]
    rintro ⟨⟩

variable {r : Registrar} {f g : Files}

/-- What the record contains decides. -/
theorem CanRead.eligibility_eq (h : r.CanRead f) (today : Date) :
  ((r.eligibility today).run f).1 = r.judgement today f.record
  := by
  cases hrecord : f.record with
  | none =>
    rw [run_eligibility_of_none hrecord]
    rfl
  | some text => apply run_eligibility_of_read hrecord h.leaves (h.read text hrecord)

theorem judgement_eq_eligible_iff_endsOn {today : Date} {record : Option String} :
  r.judgement today record = .eligible ↔
    record = none ∨ ∃ text validTo after, record = some text ∧ EndsOn r.trust text validTo ∧
      validTo.addDays? r.cooldownDays = some after ∧ after < today
  := by
  cases record with
  | none =>
    constructor
    · intro _
      left
      rfl
    · intro _
      rfl
  | some text =>
    rw [judgement, Eligibility.ofRecord_eq_eligible_iff]
    constructor
    · rintro ⟨validTo, after, h⟩
      right
      use text, validTo, after, rfl
    · rintro (⟨⟨⟩⟩ | ⟨_, validTo, after, ⟨⟩, h⟩)
      use validTo, after

/-- A record that allows a new evaluation on a day allows it on all later days. -/
theorem judgement_eq_eligible_of_le {today later : Date} {record : Option String}
    (h : r.judgement today record = .eligible) (hle : today ≤ later) :
  r.judgement later record = .eligible
  := by
  rcases judgement_eq_eligible_iff_endsOn.1 h with hnone |
    ⟨text, validTo, after, hrecord, hends, hafter, hlater⟩
  · apply judgement_eq_eligible_iff_endsOn.2 (.inl hnone)
  · apply judgement_eq_eligible_iff_endsOn.2
    right
    use text, validTo, after, hrecord, hends, hafter
    apply Int.lt_of_lt_of_le hlater hle

/-- When the record can be read, a new evaluation may start on a day exactly if there is no
record, or if it names an evaluation license with a last day and the waiting time behind that
day is over. An evaluation is running up to exactly the last day, waiting lasts from then to
exactly the end of the waiting time, and if this is beyond the calendar, everything is blocked
after the last day. A record that names no evaluation license with a last day has a fault and
blocks everything, on all days. Where a new evaluation may start, it may start on all later
days, as long as the record is the same. -/
theorem eligibility_of_canRead (h : r.CanRead f) :
  let e := fun today => ((r.eligibility today).run f).1
  (∀ today, e today = .eligible ↔
    f.record = none ∨ ∃ text validTo after, f.record = some text ∧ EndsOn r.trust text validTo ∧
      validTo.addDays? r.cooldownDays = some after ∧ after < today) ∧
  (∀ text validTo, f.record = some text → EndsOn r.trust text validTo → ∀ today,
    (∀ last, e today = .withinEvaluation last ↔ last = validTo ∧ today ≤ validTo) ∧
    (∀ after, e today = .withinCooldown after ↔
      validTo.addDays? r.cooldownDays = some after ∧ validTo < today ∧ today ≤ after) ∧
    (∀ fault, e today = .blocked fault ↔ fault = .beyondCalendar ∧
      validTo.addDays? r.cooldownDays = none ∧ validTo < today)) ∧
  (∀ text, f.record = some text →
    ((¬ ∃ validTo, EndsOn r.trust text validTo) ↔ ∃ fault, HasFault r.trust text fault) ∧
    ∀ fault, HasFault r.trust text fault → ∀ today, e today = .blocked fault) ∧
  (∀ g, r.CanRead g → g.record = f.record → ∀ today later, e today = .eligible →
    today ≤ later → ((r.eligibility later).run g).1 = .eligible)
  := by
  intro e
  have he (today : Date) : e today = r.judgement today f.record := h.eligibility_eq today
  constructor
  · intro today
    rw [he]
    apply judgement_eq_eligible_iff_endsOn
  constructor
  · intro text validTo htext hends today
    have hdecided : e today = .ofValidTo r.cooldownDays today validTo := by
      rw [he, htext, judgement, Eligibility.ofRecord_of_endsOn hends]
    rw [hdecided]
    constructor
    · intro last
      apply Eligibility.ofValidTo_eq_withinEvaluation_iff
    · use fun after => Eligibility.ofValidTo_eq_withinCooldown_iff
      intro fault
      apply Eligibility.ofValidTo_eq_blocked_iff
  constructor
  · intro text htext
    use Eligibility.not_endsOn_iff
    intro fault hfault today
    rw [he, htext, judgement, Eligibility.ofRecord_of_hasFault hfault]
  · intro g hg hrecord today later heligible hle
    rw [hg.eligibility_eq, hrecord]
    rw [he] at heligible
    apply judgement_eq_eligible_of_le heligible hle

end Registrar

/-! ### The record of a new license -/

/-- With the license of an evaluation from `Date.keyEpoch` on in the record, the evaluation
runs for 45 days, a new one may start 120 days later, and none in between. -/
theorem Registrar.eligibility_of_canRead_trial :
  ∃ f last after, trialRegistrar.CanRead f ∧ last.day = Date.keyEpoch.day + 45 ∧
    after.day = last.day + 120 ∧
    ((trialRegistrar.eligibility last).run f).1 = .withinEvaluation last ∧
    ((trialRegistrar.eligibility after).run f).1 = .withinCooldown after ∧
    ((trialRegistrar.eligibility trialReopening).run f).1 = .eligible
  := by
  obtain ⟨key, hissued⟩ := exists_issue_trial .keyEpoch List.mem_cons_self
  obtain ⟨last, hlast, hregistration⟩ := registrationOf_issue hissued trialRegistrar.trust
  have hday : last.day = Date.keyEpoch.day + 45 := Date.ofDay?_eq_some_iff.1 hlast
  have hends : EndsOn trialRegistrar.trust (EvaluationRecord.text ⟨some key⟩) last :=
    endsOn_text_iff.2 ⟨_, hregistration, rfl, rfl⟩
  have hkeyEpoch : Date.keyEpoch.day = 10957 := rfl
  let after : Date := ⟨last.day + 120, by omega, by omega⟩
  have hafter : last.addDays? trialRegistrar.cooldownDays = some after :=
    Date.ofDay?_eq_some_iff.2 rfl
  generalize EvaluationRecord.text ⟨some key⟩ = text at hends
  have hcan : trialRegistrar.CanRead { record := some text } := .of_calm ⟨rfl, rfl⟩ _
  obtain ⟨heligible, hdated, -⟩ := eligibility_of_canRead hcan
  use { record := some text }, last, after, hcan, hday, rfl
  constructor
  · apply ((hdated text last rfl hends last).1 last).2 ⟨rfl, Int.le_refl last.day⟩
  constructor
  · apply ((hdated text last rfl hends after).2.1 after).2
    use hafter
    constructor
    · change last.day < last.day + 120
      omega
    · exact Int.le_refl after.day
  · apply (heligible trialReopening).2
    right
    use text, last, after, rfl, hends, hafter
    change last.day + 120 < Date.keyEpoch.day + 45 + 120 + 1
    omega

end Entitlement
