import Entitlement.Proofs.Evaluation.Granted
import Entitlement.Proofs.Store.Contention

/-!
# Registering while other programs use the files

A registration reads the record, enters a key into the store and notes it in the record, and
tries each of these steps again while it fails in passing. None of them changes a file and then
fails, so each is `Resumable`; together they make a registration that is `Steady`. If fewer
operations fail than the attempts that are made, and all of them in passing, then a registration
comes to what it comes to when nothing fails, and writes the same
(`Registrar.register_of_passing`).
-/

namespace Entitlement

open Files

namespace Registrar

variable {n : Nat} {f g : Files}

/-! ### The steps of a registration -/

theorem resumable_enter (r : Registrar) (today : Date) (key : String) :
  Resumable (r.enter today key)
  := by
  unfold enter
  apply Configuration.resumable_load.bind fun h => (Configuration.ends_load h).1
  intro c
  split
  · apply resumable_pure
  · apply (resumable_replace .store _).bind_pure

variable {r : Registrar}

/-- An action that the registrar tries as often as it may comes to the same as in calm files. -/
theorem steady_retry {α : Type} {act : FileAction α} (hact : Resumable act) :
  Steady (r.options.retryPolicy.limit - 1) (r.retry act).run
  := hact.steady_retry _

theorem steady_eligibility (today : Date) :
  Steady (r.options.retryPolicy.limit - 1) (r.eligibility today)
  := by
  unfold eligibility
  apply Steady.get_bind
  · intro f
    split
    · apply steady_pure
    · apply (steady_retry (resumable_read .record)).bind
      rintro (e | text)
      · apply steady_pure
      · apply steady_pure
  · intro f g hfg
    rw [hfg.record]

theorem steady_findRegistered (today : Date) :
  Steady (r.options.retryPolicy.limit - 1) (r.findRegistered today).run
  := by
  apply Steady.run_except_bind
  intro name
  apply (steady_retry Configuration.resumable_load).run_bind
  intro c
  apply steady_pure

theorem steady_store (today : Date) (key : String) :
  Steady (r.options.retryPolicy.limit - 1) (r.store today key).run
  := by
  apply Steady.run_except_bind
  intro name
  apply steady_retry (resumable_enter r today key)

theorem steady_noteRegistered (key : String) :
  Steady (r.options.retryPolicy.limit - 1) (r.noteRegistered key)
  := by
  apply (steady_retry (resumable_replace .record _)).bind
  intro o
  apply steady_pure

/-! ### Registrations -/

variable [SignatureScheme]

theorem steady_register (now : Instant) (guid : Guid) :
  Steady (r.options.retryPolicy.limit - 1) (r.register now guid).run
  := by
  rw [register, liftM]
  apply (steady_eligibility now.day).run_state_bind
  rintro (_ | validTo | eligibleAfter | fault)
  · apply Steady.run_except_bind
    intro key
    apply (steady_store now.day key).run_bind
    intro outcome
    split
    · apply (steady_noteRegistered _).run_state_bind
      intro u
      apply steady_pure
    · apply steady_pure
  · apply (steady_findRegistered now.day).run_bind
    intro key?
    split
    · apply steady_pure
    · apply steady_pure
  · apply steady_pure
  · apply steady_pure

/-- While operations fail in passing, and fewer of them than the attempts that are made, a
registration comes to what it comes to when nothing fails, leaves the files with the same
contents and writes the same; a license that is added is written to the store once. -/
theorem register_of_passing (r : Registrar) (now : Instant) (guid : Guid) (f : Files)
    (hpassing : f.Passing) (hfew : f.failures < r.options.retryPolicy.limit) :
  let (o, f') := (r.register now guid).run.run f
  let (o', g') := (r.register now guid).run.run { f with schedule := [], faults := [] }
  o = o' ∧ f'.store = g'.store ∧ f'.record = g'.record ∧ f'.written = g'.written ∧
    ∀ key, o = .ok (.registered key) →
      (f'.written.filter (Write.isOf .store)).length =
        (f.written.filter (Write.isOf .store)).length + 1
  := by
  obtain ⟨hsame, hdisturbed⟩ :=
    steady_register now guid (hpassing.disturbed.mono (Nat.le_sub_one_of_lt hfew))
  rcases hrun : (r.register now guid).run.run f with ⟨o, f'⟩
  rw [hrun] at hsame hdisturbed
  use hsame, hdisturbed.agrees.store, hdisturbed.agrees.record, hdisturbed.agrees.written
  rintro key rfl
  cases ends_register hrun with
  | added admitted issued drift loaded inactive noted =>
    obtain ⟨ws, hwritten, hfilter⟩ := noted.written_added
    rw [hwritten, List.filter_append, hfilter, List.length_append, drift.written]
    rfl

end Registrar

/-! ### A store in use -/

/-- The files with a store that other programs use for a while, and a record too. -/
def Registrar.busyFiles : Files :=
  { sharedFiles with
    schedule := [some ⟨.interrupted, none⟩, none, some ⟨.timedOut, none⟩],
    faults := [⟨.store, .write, .resourceBusy, 3, none⟩, ⟨.record, .write, .wouldBlock, 2, none⟩] }

theorem Registrar.register_of_passing_busy :
  ∃ key f', (trialRegistrar.trustingIssuer.register (trialVisit .keyEpoch).now
      (trialVisit .keyEpoch).guid).run.run busyFiles = (.ok (.registered key), f') ∧
    (f'.written.filter (Write.isOf .store)).length = 1 ∧ f'.writes = 2
  := by
  obtain ⟨key, n, text, hcalm⟩ := exists_register_shared
  have hschedule : ∀ o ∈ busyFiles.schedule, ∀ a ∈ o, a.IsPassing := by
    decide
  have hpassing : busyFiles.Passing := by
    constructor
    · intro a ha
      apply hschedule (some a) ha a rfl
    · decide
  have hfew : busyFiles.failures < trialRegistrar.trustingIssuer.options.retryPolicy.limit := by
    decide
  have hsame := register_of_passing trialRegistrar.trustingIssuer (trialVisit .keyEpoch).now
    (trialVisit .keyEpoch).guid busyFiles hpassing hfew
  have hrest : { busyFiles with schedule := [], faults := [] } = sharedFiles := rfl
  rw [hrest, hcalm] at hsame
  rcases hrun : (trialRegistrar.trustingIssuer.register (trialVisit .keyEpoch).now
    (trialVisit .keyEpoch).guid).run.run busyFiles with ⟨o, f'⟩
  rw [hrun] at hsame
  obtain ⟨rfl, -, -, hwritten, hadded⟩ := hsame
  use key, f', rfl, hadded key rfl
  rw [Files.writes, hwritten]
  rfl

end Entitlement
