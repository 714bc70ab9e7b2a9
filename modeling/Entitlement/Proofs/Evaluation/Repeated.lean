import Entitlement.Proofs.Evaluation.Found
import Entitlement.Proofs.Evaluation.Steps

/-!
# Registering once more

While an evaluation runs, registering once more finds a license in the store and changes no
file. `Registrar.Running` says what the files contain from the registration of a license on: the
record names the license, and the store lists it, with no other one that is active on the day
of the registration. A further registration on a day of the evaluation keeps that and comes to a
license that is active, which is the new one at least on the first day
(`Registrar.Running.ends_register`); and so does any number of them
(`Registrar.alreadyRegistered_of_registered`).
-/

namespace Entitlement

namespace Registrar

/-! ### Registrations one after the other -/

section

variable [SignatureScheme]

/-- Registers once for each instant, one after the other, with a guid for each time. -/
def registerEach (r : Registrar) (vs : List (Instant × Guid)) :
    StateM Files (List (Except LicenseError Outcome)) :=
  vs.mapM fun v => (r.register v.1 v.2).run

theorem run_registerEach_cons (r : Registrar) (v : Instant × Guid) (vs : List (Instant × Guid))
    (f : Files) :
  (r.registerEach (v :: vs)).run f =
    (((r.register v.1 v.2).run.run f).1 ::
        ((r.registerEach vs).run ((r.register v.1 v.2).run.run f).2).1,
      ((r.registerEach vs).run ((r.register v.1 v.2).run.run f).2).2)
  := by
  rw [registerEach, List.mapM_cons]
  rfl

end

/-! ### While an evaluation runs -/

/-- The files of an evaluation that began on the day: the record names its license, and the
store lists it, and no other one that was active on that day. -/
structure Running (r : Registrar) (key : String) (first : Date) (f : Files) : Prop where
  begins : r.Begins key first
  noted : f.record = some (EvaluationRecord.text ⟨some key⟩)
  stored : ∃ c, Configuration.ofContents? f.store = some c ∧ key ∈ c.keys ∧
    r.findActive? first c = some key
  lockUsable : r.lockUsable = true
  calm : f.Calm

variable {r : Registrar} {key : String} {first : Date} {f : Files}

theorem Running.reads (h : r.Running key first f) (n : Nat) :
  r.Running key first { f with reads := n }
  := ⟨h.begins, h.noted, h.stored, h.lockUsable, h.calm.reads n⟩

variable [SignatureScheme] {now : Instant} {guid : Guid}

/-- On a day of the evaluation a registration finds a license that is active, and on the first
day the one with which it began. It only reads. -/
theorem Running.ends_register (h : r.Running key first f) (hfirst : first ≤ now.day)
    (hlast : now.day.day ≤ first.day + r.evaluationDays) (guid : Guid) :
  ∃ n other, (r.register now guid).Ends f (.ok (.alreadyRegistered other)) { f with reads := n } ∧
    (now.day = first → other = key)
  := by
  have hactive : r.isActive now.day key = true := h.begins.isActive_iff.2 ⟨hfirst, hlast⟩
  obtain ⟨c, hc, hmem, hfound⟩ := h.stored
  obtain ⟨validTo, hjudged⟩ := h.begins.judgement hactive
  rw [← h.noted] at hjudged
  obtain ⟨m, heligibility⟩ := run_eligibility_of_calm r now.day h.calm
  rw [hjudged] at heligibility
  obtain ⟨other, hother⟩ : ∃ other, r.findActive? now.day c = some other := by
    apply Option.isSome_iff_exists.1
    apply List.find?_isSome.2
    use key, hmem, hactive
  obtain ⟨o, n, hfind, ⟨e, -, hunusable | hunread⟩ | ⟨c', rfl, hc'⟩⟩ :=
    exists_findRegistered r now.day (h.calm.reads m)
  · cases hunusable.symm.trans h.lockUsable
  · cases hunread.symm.trans hc
  · cases hc.symm.trans hc'
    rw [hother] at hfind
    use n, other
    constructor
    · rw [register, liftM, Action.ends_state_bind_iff, heligibility]
      apply Action.ends_bind_iff.2
      left
      exact ⟨_, _, hfind, rfl⟩
    · rintro rfl
      cases hother.symm.trans hfound
      rfl

/-- So do registrations on any days of the evaluation. -/
theorem Running.run_registerEach (h : r.Running key first f) {vs : List (Instant × Guid)}
    (hvs : ∀ v ∈ vs, first ≤ v.1.day ∧ v.1.day.day ≤ first.day + r.evaluationDays) :
  ∃ n os, (r.registerEach vs).run f = (os, { f with reads := n }) ∧
    List.Forall₂ (fun v o => ∃ other, o = .ok (.alreadyRegistered other) ∧
      (v.1.day = first → other = key)) vs os
  := by
  induction vs generalizing f with
  | nil =>
    use f.reads, [], rfl
    apply List.Forall₂.nil
  | cons v vs ih =>
    obtain ⟨hfirst, hlast⟩ := hvs v List.mem_cons_self
    obtain ⟨m, other, hends, hother⟩ := h.ends_register hfirst hlast v.2
    obtain ⟨n, os, hrun, hos⟩ := ih (h.reads m) fun v hv => hvs v (List.mem_cons_of_mem _ hv)
    use n, .ok (.alreadyRegistered other) :: os
    constructor
    · rw [run_registerEach_cons, hends, hrun]
    · apply List.Forall₂.cons ⟨other, rfl, hother⟩ hos

/-! ### After a registration -/

/-- A registration that has added a license and noted it leaves the files of a running
evaluation, if the store contains what was written there. -/
theorem running_of_registered {f' g : Files} {w : Write}
    (h : (r.register now guid).run.run f = (.ok (.registered key), f'))
    (hnoted : f'.written.filter (Write.isOf .record) ≠ f.written.filter (Write.isOf .record))
    (hlast : f'.lastWrite? .store = some w) (hstore : g.store = some w.text)
    (hrecord : g.record = f'.record) (hcalm : g.Calm) :
  r.Running key now.day g
  := by
  obtain ⟨hissued, c, hc, hinactive, htext⟩ := lastWrite?_of_registered h hlast
  have hbegins : r.Begins key now.day := begins_of_issue rfl hissued
  constructor
  · apply hbegins
  · rw [hrecord]
    apply (isActive_of_noted h rfl hnoted).1
  · obtain ⟨c', hc', hkeys⟩ :=
      Configuration.exists_ofContents?_add hc hbegins.trim hbegins.ne_empty
    use c'
    constructor
    · rw [hstore, htext, ← hc', add?_of_issue hissued hinactive]
      rfl
    · use (hkeys key).2 (.inl rfl)
      apply findActive?_of_added hkeys hbegins.isActive_first hinactive
  · apply lockUsable_of_registered h
  · apply hcalm

/-- After a registration has added a license to the store and noted it in the record, and while
the files contain what was written there and nothing fails, all registrations on days of the
evaluation find a license, those on the first day the new one, and nothing is written. -/
theorem alreadyRegistered_of_registered {f' g : Files} {w : Write} {vs : List (Instant × Guid)}
    (hregistered : (r.register now guid).run.run f = (.ok (.registered key), f'))
    (hnoted : f'.written.filter (Write.isOf .record) ≠ f.written.filter (Write.isOf .record))
    (hlast : f'.lastWrite? .store = some w) (hstore : g.store = some w.text)
    (hrecord : g.record = f'.record) (hcalm : g.Calm)
    (hvs : ∀ v ∈ vs, now.day ≤ v.1.day ∧ v.1.day.day ≤ now.day.day + r.evaluationDays) :
  let (os, g') := (r.registerEach vs).run g
  List.Forall₂ (fun v o => ∃ other, o = .ok (.alreadyRegistered other) ∧
    (v.1.day = now.day → other = key)) vs os ∧
  g'.store = g.store ∧ g'.record = g.record ∧ g'.written = g.written
  := by
  have hrunning := running_of_registered hregistered hnoted hlast hstore hrecord hcalm
  obtain ⟨n, os, hrun, hos⟩ := hrunning.run_registerEach hvs
  rw [hrun]
  use hos, rfl, rfl

end Registrar

/-! ### Three registrations -/

/-- The last day of an evaluation that begins on `Date.keyEpoch`. -/
def trialLast : Date := ⟨Date.keyEpoch.day + 45, by decide, by decide⟩

/-- A license that has been added is found on the first day, and one is found on the last. -/
theorem Registrar.alreadyRegistered_of_registered_shared :
  ∃ key f' other g', (trialRegistrar.trustingIssuer.register (trialVisit .keyEpoch).now
      (trialVisit .keyEpoch).guid).run.run sharedFiles = (.ok (.registered key), f') ∧
    (trialRegistrar.trustingIssuer.registerEach
        [((trialVisit .keyEpoch).now, (trialVisit .keyEpoch).guid),
          ((trialVisit trialLast).now, (trialVisit trialLast).guid)]).run f' =
      ([.ok (.alreadyRegistered key), .ok (.alreadyRegistered other)], g') ∧
    g'.store = f'.store ∧ g'.record = f'.record
  := by
  obtain ⟨key, n, text, hregistered⟩ := exists_register_shared
  have hdays : ∀ v ∈ [((trialVisit .keyEpoch).now, (trialVisit .keyEpoch).guid),
      ((trialVisit trialLast).now, (trialVisit trialLast).guid)],
      (trialVisit .keyEpoch).now.day ≤ v.1.day ∧ v.1.day.day ≤
        (trialVisit .keyEpoch).now.day.day + trialRegistrar.trustingIssuer.evaluationDays := by
    intro v hv
    rcases List.mem_pair.1 hv with rfl | rfl
    · decide
    · decide
  obtain ⟨f', hf'⟩ : ∃ f', f' = ({ sharedFiles with reads := n }.afterWrite .store text).afterWrite
      .record (EvaluationRecord.text ⟨some key⟩) := ⟨_, rfl⟩
  rw [← hf'] at hregistered
  have hnoted : f'.written.filter (Write.isOf .record) ≠
      sharedFiles.written.filter (Write.isOf .record) := by
    rw [hf']
    rintro ⟨⟩
  have hlast : f'.lastWrite? .store = some ⟨.store, sharedFiles.store, text⟩ := by
    rw [hf']
    rfl
  have hstore : f'.store = some text := by
    rw [hf']
    rfl
  have hcalm : f'.Calm := by
    rw [hf']
    exact ⟨rfl, rfl⟩
  have hfound := alreadyRegistered_of_registered hregistered hnoted hlast hstore rfl hcalm hdays
  generalize hrun : (trialRegistrar.trustingIssuer.registerEach _).run f' = x at hfound
  obtain ⟨os, g'⟩ := x
  obtain ⟨hos, hstore', hrecord', -⟩ := hfound
  obtain ⟨_, rest, ⟨first, rfl, hfirst⟩, hrest, rfl⟩ := List.forall₂_cons_left_iff.1 hos
  obtain ⟨_, none, ⟨other, rfl, -⟩, hnone, rfl⟩ := List.forall₂_cons_left_iff.1 hrest
  cases hnone
  cases hfirst rfl
  exact ⟨key, f', other, g', hregistered, hrun, hstore', hrecord'⟩

end Entitlement
