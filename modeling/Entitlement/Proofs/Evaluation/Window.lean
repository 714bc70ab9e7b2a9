import Entitlement.Crypto.Ed25519
import Entitlement.Proofs.Evaluation.Atomic
import Entitlement.Proofs.Evaluation.Issuing
import Entitlement.Proofs.Evaluation.Record

/-!
# One evaluation in each window

The record outlives what happens to the store. However the store is changed between
registrations, and however the clock is set, a registration that adds a license to the store
lies behind the last day and the waiting time of each license that was added before
(`Registrar.registered_apart`). What carries the proof is a bound on the days on which the
record allows a new evaluation (`Registrar.Bars`): each registration keeps it, also one that
puts a license into the record that somebody else has put into the store. After that time a
new evaluation may start (`Registrar.visits_reopening`).
-/

namespace Entitlement

/-! ### Runs of registrations -/

/-- The circumstances of a registration: the time, a guid, what the store contains when it
begins, and what fails. -/
structure Visit where
  now : Instant
  guid : Guid
  store : Option String
  schedule : List (Option Failure) := []
  faults : List Fault := []

/-- The files that a registration finds. -/
def Visit.files (v : Visit) (record : Option String) : Files where
  store := v.store
  record := record
  schedule := v.schedule
  faults := v.faults

/-- Nothing fails at the registration, and it finds no store. -/
structure Visit.Fresh (v : Visit) : Prop where
  store : v.store = none
  schedule : v.schedule = []
  faults : v.faults = []

theorem Visit.Fresh.calm {v : Visit} (h : v.Fresh) (record : Option String) :
  (v.files record).Calm
  where
  schedule := h.schedule
  faults := h.faults

/-- What a registration has come to. -/
structure Visited where
  day : Date
  outcome : Except LicenseError Outcome
  files : Files

namespace Visited

/-- A license was added to the store. -/
def hasAdded (x : Visited) : Bool :=
  match x.outcome with
  | .ok (.registered _) => true
  | _ => false

theorem hasAdded_iff {x : Visited} :
  x.hasAdded = true ↔ ∃ key, x.outcome = .ok (.registered key)
  := by
  unfold hasAdded
  split
  · rename_i key h
    rw [h]
    constructor
    · intro _
      use key
    · intro _
      rfl
  · rename_i hother
    constructor
    · rintro ⟨⟩
    · rintro ⟨key, h⟩
      cases hother key h

/-- A license was noted in the record. -/
def hasNoted (x : Visited) : Bool := x.files.written.any (Write.isOf .record)

end Visited

namespace Registrar

variable [SignatureScheme]

/-- What registrations one after another come to. Each of them finds the record as the one
before has left it. -/
def visits (r : Registrar) : (record : Option String) → List Visit → List Visited
  | _, [] => []
  | record, v :: vs =>
    let (outcome, files) := (r.register v.now v.guid).run.run (v.files record)
    ⟨v.now.day, outcome, files⟩ :: visits r files.record vs

/-! ### What a registration leaves in the record -/

/-- The record allows no new evaluation until the waiting time after the day `n` is over. -/
def Bars (r : Registrar) (n : Int) (record : Option String) : Prop :=
  ∃ text, record = some text ∧
    ∀ today, Eligibility.ofRecord r.trust r.cooldownDays today text = .eligible →
      n + r.cooldownDays < today.day

omit [SignatureScheme] in
theorem Noted.record {key : String} {f f' : Files} (h : Noted key f f')
    (hf : f.Leaves .record) :
  f'.record = f.record ∨ f'.record = some (EvaluationRecord.text ⟨some key⟩)
  := by
  rcases h with hdrift | ⟨g, hdrift, rfl⟩
  · left
    apply hdrift.contents .record hf
  · right
    rfl

omit [SignatureScheme] in
/-- The record with a key bars new evaluations for as long as the license of the key is
valid. -/
theorem bars_text {r : Registrar} {key : String} {n : Int}
    (h : ∀ d validTo, Eligibility.registrationOf r.trust key = .ok d →
      d.validTo = some validTo → n ≤ validTo.day) :
  r.Bars n (some (EvaluationRecord.text ⟨some key⟩))
  := by
  use EvaluationRecord.text ⟨some key⟩, rfl
  intro today heligible
  obtain ⟨validTo, after, hends, hafter, hlater⟩ :=
    Eligibility.ofRecord_eq_eligible_iff.1 heligible
  obtain ⟨d, hd, -, hvalidTo⟩ := EvaluationRecord.endsOn_text_iff.1 hends
  have hn := h d validTo hd hvalidTo
  have hday := Date.ofDay?_eq_some_iff.1 hafter
  have hlater' : after.day < today.day := hlater
  omega

variable {r : Registrar} {now : Instant} {guid : Guid} {f f' : Files}
  {o : Except LicenseError Outcome}

omit [SignatureScheme] in
/-- What bars an evaluation bars also those that are allowed later. -/
theorem Admits.lt {today : Date} {n : Int} (h : r.Admits today f) (hf : f.Leaves .record)
    (hbars : r.Bars n f.record) :
  n + r.cooldownDays < today.day
  := by
  obtain ⟨text, htext, hbars⟩ := hbars
  apply hbars today (h text htext hf)

omit [SignatureScheme] in
/-- A key that is active when it is noted keeps what bars new evaluations before. -/
theorem Noted.bars {key : String} {g : Files} {today : Date} {n : Int} (h : Noted key g f')
    (hg : g.Leaves .record) (hbars : r.Bars n g.record) (hlater : n ≤ today.day)
    (hactive : r.isActive today key = true) :
  r.Bars n f'.record
  := by
  rcases h.record hg with hrecord | hrecord
  · rw [hrecord]
    apply hbars
  · rw [hrecord]
    apply bars_text
    intro d validTo hd hvalidTo
    have hlast : today.day ≤ validTo.day := le_of_isActive hactive hd hvalidTo
    omega

/-- A registration keeps what bars new evaluations. -/
theorem Course.bars {n : Int} (h : r.Course now guid f o f') (hf : f.Leaves .record)
    (hbars : r.Bars n f.record) :
  r.Bars n f'.record
  := by
  cases h with
  | failed drift | refused drift | running drift =>
    have hrecord : f'.record = f.record := drift.contents .record hf
    rw [hrecord]
    apply hbars
  | @found c key g _ admitted drift loaded active noted =>
    have hlater := admitted.lt hf hbars
    have hrecord : g.record = f.record := drift.contents .record hf
    apply noted.bars (drift.leaves .record hf)
    · rw [hrecord]
      apply hbars
    · show n ≤ now.day.day
      omega
    · apply (isActive_of_findActive? active).2
  | @added c key g _ admitted issued drift loaded inactive noted =>
    have hlater := admitted.lt hf hbars
    have hrecord : g.record = f.record := drift.contents .record hf
    have hleaves := drift.leaves .record hf
    apply noted.bars ⟨hleaves.schedule, hleaves.faults⟩
    · change r.Bars n g.record
      rw [hrecord]
      apply hbars
    · show n ≤ now.day.day
      omega
    · apply isActive_of_issue issued

/-- A registration that adds a license comes after what bars new evaluations. -/
theorem Course.lt {n : Int} {key : String} (h : r.Course now guid f (.ok (.registered key)) f')
    (hf : f.Leaves .record) (hbars : r.Bars n f.record) :
  n + r.cooldownDays < now.day.day
  := by
  cases h with
  | added admitted issued drift loaded inactive noted => apply admitted.lt hf hbars

/-- A registration that adds a license and notes it bars new evaluations as long as the
license is valid. -/
theorem Course.bars_added {key : String} (h : r.Course now guid f (.ok (.registered key)) f')
    (hwritten : f.written.any (Write.isOf .record) = false)
    (hnoted : f'.written.any (Write.isOf .record) = true) :
  r.Bars (now.day.day + r.evaluationDays) f'.record
  := by
  cases h with
  | @added c _ g _ admitted issued drift loaded inactive noted =>
    rcases noted with hdrift | ⟨g', hdrift, rfl⟩
    · rw [hdrift.written, Files.afterWrite, drift.written, List.any_append, hwritten] at hnoted
      cases hnoted
    · apply bars_text
      intro d validTo hd hvalidTo
      obtain ⟨validTo', hlast, hissued⟩ := registrationOf_issue issued r.trust
      cases hd.symm.trans hissued
      cases hvalidTo
      rw [← Date.ofDay?_eq_some_iff.1 hlast]

/-- When nothing fails, a license that is added is noted in the record. -/
theorem any_isOf_record_of_calm {key : String} (hf : f.Calm)
    (h : (r.register now guid).Ends f (.ok (.registered key)) f') :
  f'.written.any (Write.isOf .record) = true
  := by
  have hlock := lockUsable_of_registered h
  cases ends_register h with
  | @added c _ g _ admitted issued drift loaded inactive noted =>
    have hstore : g.store = f.store := drift.contents .store (hf.leaves .store)
    rw [hstore] at loaded
    obtain ⟨n, hends⟩ := ends_register_of_calm hf hlock
      (fun text htext => admitted text htext (hf.leaves .record)) issued loaded inactive
    cases h.symm.trans hends
    rw [Files.afterWrite, List.any_append]
    apply Bool.or_true

/-- After an evaluation and the waiting time behind it, the record of its license allows a new
one. -/
theorem ofRecord_of_issue {key : String} {today after : Date} (h : r.issue now guid = .ok key)
    (hafter : after.day = now.day.day + r.evaluationDays + r.cooldownDays)
    (hlater : after < today) :
  Eligibility.ofRecord r.trust r.cooldownDays today (EvaluationRecord.text ⟨some key⟩) =
    .eligible
  := by
  obtain ⟨validTo, hvalidTo, hregistration⟩ := registrationOf_issue h r.trust
  have hwaited : validTo.addDays? r.cooldownDays = some after := by
    apply Date.ofDay?_eq_some_iff.2
    rw [hafter, Date.ofDay?_eq_some_iff.1 hvalidTo]
  have hends : EvaluationRecord.EndsOn r.trust (EvaluationRecord.text ⟨some key⟩) validTo :=
    EvaluationRecord.endsOn_text_iff.2 ⟨_, hregistration, rfl, rfl⟩
  apply Eligibility.ofRecord_eq_eligible_iff.2
  use validTo, after, hends, hwaited

/-- When nothing fails, a registration that finds no store and that the record allows adds a
license and notes it. -/
theorem register_fresh {v : Visit} {record : Option String} {key : String} (hv : v.Fresh)
    (hlock : r.lockUsable = true) (hissued : r.issue v.now v.guid = .ok key)
    (hrecord : ∀ text, record = some text →
      Eligibility.ofRecord r.trust r.cooldownDays v.now.day text = .eligible) :
  ∃ f', (r.register v.now v.guid).run.run (v.files record) = (.ok (.registered key), f') ∧
    f'.record = some (EvaluationRecord.text ⟨some key⟩)
  := by
  have hc : Configuration.ofContents? (v.files record).store = some {} := by
    rw [Visit.files, hv.store]
    rfl
  obtain ⟨n, hends⟩ := ends_register_of_calm (hv.calm record) hlock hrecord hissued hc rfl
  exact ⟨_, hends, rfl⟩

/-! ### Runs -/

/-- Licenses are only added after the time for which new evaluations are barred. -/
theorem lt_of_bars {n : Int} {record : Option String} {vs : List Visit}
    (hleaves : ∀ v ∈ vs, (v.files none).Leaves .record) (hbars : r.Bars n record) :
  ∀ x ∈ r.visits record vs, x.hasAdded = true → n + r.cooldownDays < x.day.day
  := by
  induction vs generalizing record with
  | nil => rintro _ ⟨⟩
  | cons v vs ih =>
    have hv := hleaves v List.mem_cons_self
    have hf : (v.files record).Leaves .record := ⟨hv.schedule, hv.faults⟩
    rcases hrun : (r.register v.now v.guid).run.run (v.files record) with ⟨o, f'⟩
    have hcourse := ends_register hrun
    rw [visits, hrun]
    intro x hx hadded
    rcases List.mem_cons.1 hx with rfl | hx
    · obtain ⟨key, rfl⟩ := Visited.hasAdded_iff.1 hadded
      apply hcourse.lt hf hbars
    · apply ih (fun v hv => hleaves v (List.mem_cons_of_mem _ hv)) (hcourse.bars hf hbars) x hx
      apply hadded

/-- When nothing fails, each license that is added is noted in the record. -/
theorem hasNoted_of_calm {record : Option String} {vs : List Visit}
    (hcalm : ∀ v ∈ vs, (v.files none).Calm) :
  ∀ x ∈ r.visits record vs, x.hasAdded = true → x.hasNoted = true
  := by
  induction vs generalizing record with
  | nil => rintro _ ⟨⟩
  | cons v vs ih =>
    have hv := hcalm v List.mem_cons_self
    have hf : (v.files record).Calm := ⟨hv.schedule, hv.faults⟩
    rcases hrun : (r.register v.now v.guid).run.run (v.files record) with ⟨o, f'⟩
    rw [visits, hrun]
    intro x hx hadded
    rcases List.mem_cons.1 hx with rfl | hx
    · obtain ⟨key, rfl⟩ := Visited.hasAdded_iff.1 hadded
      apply any_isOf_record_of_calm hf hrun
    · apply ih (fun v hv => hcalm v (List.mem_cons_of_mem _ hv)) x hx hadded

/-- Licenses that are added one after another, and noted in the record, lie apart: the day on
which a later one is added comes after the last day of each earlier one and the waiting time
behind it. Between the registrations the clock may be set and the store may be changed at
will; nobody but the registrations writes the record. -/
theorem registered_apart {record : Option String} {vs : List Visit}
    (hleaves : ∀ v ∈ vs, (v.files none).Leaves .record)
    (hnoted : ∀ x ∈ r.visits record vs, x.hasAdded = true → x.hasNoted = true) :
  (r.visits record vs).Pairwise fun (x y : Visited) => x.hasAdded = true → y.hasAdded = true →
    x.day.day + r.evaluationDays + r.cooldownDays < y.day.day
  := by
  induction vs generalizing record with
  | nil => apply List.Pairwise.nil
  | cons v vs ih =>
    have hleaves' : ∀ v ∈ vs, (v.files none).Leaves .record := fun v hv =>
      hleaves v (List.mem_cons_of_mem _ hv)
    rcases hrun : (r.register v.now v.guid).run.run (v.files record) with ⟨o, f'⟩
    rw [visits, hrun] at hnoted ⊢
    apply List.Pairwise.cons
    · intro y hy hadded
      obtain ⟨key, rfl⟩ := Visited.hasAdded_iff.1 hadded
      apply lt_of_bars hleaves' _ y hy
      apply (ends_register hrun).bars_added rfl (hnoted _ List.mem_cons_self hadded)
    · apply ih hleaves'
      intro x hx
      apply hnoted x (List.mem_cons_of_mem _ hx)

/-- The time between licenses is not longer than needed: when nothing fails, a second one is
added on the first day after the waiting time. -/
theorem visits_reopening {v w : Visit} {key key' : String} {after : Date} (hv : v.Fresh)
    (hw : w.Fresh) (hlock : r.lockUsable = true) (hkey : r.issue v.now v.guid = .ok key)
    (hkey' : r.issue w.now w.guid = .ok key')
    (hafter : after.day = v.now.day.day + r.evaluationDays + r.cooldownDays)
    (hlater : after < w.now.day) :
  ∃ x y, r.visits none [v, w] = [x, y] ∧ x.hasAdded = true ∧ y.hasAdded = true
  := by
  have hnone : ∀ text, none = some text →
      Eligibility.ofRecord r.trust r.cooldownDays v.now.day text = .eligible := by
    rintro _ ⟨⟩
  obtain ⟨f, hrun, hrecord⟩ := register_fresh hv hlock hkey hnone
  have hallowed : ∀ text, f.record = some text →
      Eligibility.ofRecord r.trust r.cooldownDays w.now.day text = .eligible := by
    intro text htext
    rw [hrecord] at htext
    cases htext
    apply ofRecord_of_issue hkey hafter hlater
  obtain ⟨f', hrun', -⟩ := register_fresh hw hlock hkey' hallowed
  use ⟨v.now.day, .ok (.registered key), f⟩, ⟨w.now.day, .ok (.registered key'), f'⟩
  constructor
  · rw [visits, hrun]
    dsimp only
    rw [visits, hrun']
    rfl
  · use rfl
    rfl

end Registrar

/-! ### Two evaluations -/

/-- The instant at which a day begins. -/
def Date.start (d : Date) : Instant where
  seconds := d.day * 86400
  nanos := 0
  first_le := by
    have := d.first_le
    omega
  le_last := by
    have := d.le_last
    omega
  nanos_lt := by decide

/-- A registrar for evaluations of 45 days with 120 days between them. -/
def trialRegistrar : Registrar where
  trust := licensorTrust
  issuer := licensor
  options := .inFolder "trial"

/-- A registration on a day, without a store. -/
def trialVisit (today : Date) : Visit where
  now := today.start
  guid := ⟨List.replicate 16 1, List.length_replicate⟩
  store := none

/-- The first day of a new evaluation after one that begins on `Date.keyEpoch`. -/
def trialReopening : Date := ⟨Date.keyEpoch.day + 45 + 120 + 1, by decide, by decide⟩

theorem exists_issue_trial :
  ∀ today ∈ [Date.keyEpoch, trialReopening],
    ∃ key, trialRegistrar.issue (trialVisit today).now (trialVisit today).guid = .ok key
  := by
  intro today htoday
  apply (Registrar.exists_issue_iff (Ed25519.length_sign _)).2
  have hcan : ∀ today ∈ [Date.keyEpoch, trialReopening],
      trialRegistrar.CanBegin (trialVisit today).now.day := by
    decide
  apply hcan today htoday

theorem Registrar.registered_apart_reopening :
  ∃ x y, trialRegistrar.visits none [trialVisit .keyEpoch, trialVisit trialReopening] = [x, y] ∧
    x.hasAdded = true ∧ y.hasAdded = true ∧ x.day.day + 45 + 120 < y.day.day
  := by
  have hfresh (today : Date) : (trialVisit today).Fresh := ⟨rfl, rfl, rfl⟩
  let after : Date := ⟨Date.keyEpoch.day + 45 + 120, by decide, by decide⟩
  have hafter : after.day = (trialVisit .keyEpoch).now.day.day + trialRegistrar.evaluationDays +
      trialRegistrar.cooldownDays := by
    decide
  have hlater : after < (trialVisit trialReopening).now.day := by
    decide
  obtain ⟨key, hkey⟩ := exists_issue_trial .keyEpoch List.mem_cons_self
  obtain ⟨key', hkey'⟩ :=
    exists_issue_trial trialReopening (List.mem_cons_of_mem _ List.mem_cons_self)
  obtain ⟨x, y, hvisits, hx, hy⟩ :=
    visits_reopening (hfresh _) (hfresh _) rfl hkey hkey' hafter hlater
  have hcalm : ∀ v ∈ [trialVisit .keyEpoch, trialVisit trialReopening],
      (v.files none).Calm := by
    intro v hv
    rcases List.mem_pair.1 hv with rfl | rfl
    · apply (hfresh _).calm
    · apply (hfresh _).calm
  have hnoted : ∀ z ∈ trialRegistrar.visits none
      [trialVisit .keyEpoch, trialVisit trialReopening],
        z.hasAdded = true → z.hasNoted = true :=
    hasNoted_of_calm hcalm
  have hapart := registered_apart (fun v hv => (hcalm v hv).leaves .record) hnoted
  rw [hvisits] at hapart
  use x, y, hvisits, hx, hy
  apply List.rel_of_pairwise_cons hapart List.mem_cons_self hx hy

end Entitlement
