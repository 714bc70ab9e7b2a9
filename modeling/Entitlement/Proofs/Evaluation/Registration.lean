import Entitlement.Evaluation.Registrar
import Entitlement.Proofs.License.Issued
import Entitlement.Proofs.Store.Files

/-!
# The courses of a registration

A registration takes one of five courses, and `Registrar.Course` says for each of them how
the files change: whether and what is written to the store, and what is noted in the record
after it. `Registrar.ends_register` shows that there are no others. What is to be known about
a key that a registration has issued is that it is active on the day (`isActive_of_issue`),
for then no key of the store in which none is active is the same. When nothing fails and the
record allows it, a license is added and noted (`Registrar.ends_register_of_calm`).
-/

namespace Entitlement

namespace Registrar

/-! ### Active keys -/

/-- The license of an active key has not ended. -/
theorem le_of_isActive {r : Registrar} {today validTo : Date} {key : String} {d : Registration}
    (h : r.isActive today key = true) (hd : Eligibility.registrationOf r.trust key = .ok d)
    (hvalidTo : d.validTo = some validTo) :
  today ≤ validTo
  := by
  rw [isActive, hd] at h
  obtain ⟨-, hvalid⟩ := Bool.and_eq_true_iff.1 h
  rw [Registration.isValidOn, Date.isWithin, hvalidTo] at hvalid
  apply of_decide_eq_true (Bool.and_eq_true_iff.1 hvalid).2

theorem isActive_of_findActive? {r : Registrar} {today : Date} {c : Configuration} {key : String}
    (h : r.findActive? today c = some key) :
  key ∈ c.keys ∧ r.isActive today key = true
  := by
  use List.mem_of_find?_eq_some h
  apply List.find?_some h

/-! ### New keys -/

section

variable [SignatureScheme] {r : Registrar} {now : Instant} {guid : Guid} {key : String}

theorem issue_eq_ok_iff :
  r.issue now guid = .ok key ↔
    ∃ validTo p, now.day.addDays? r.evaluationDays = some validTo ∧
      (spec now validTo guid).payload = .ok p ∧ r.issuer.issue .current p = .ok key
  := by
  unfold issue
  cases now.day.addDays? r.evaluationDays with
  | none =>
    constructor
    · rintro ⟨⟩
    · rintro ⟨_, _, ⟨⟩, _⟩
  | some validTo =>
    change (LicenseError.ofKey (spec now validTo guid).payload >>= _) = _ ↔ _
    rw [bind_ok_iff]
    constructor
    · rintro ⟨p, hp, hkey⟩
      use validTo, p, rfl, LicenseError.ofKey_eq_ok_iff.1 hp, hkey
    · rintro ⟨_, p, ⟨⟩, hp, hkey⟩
      use p, LicenseError.ofKey_eq_ok_iff.2 hp, hkey

/-- A key that has been issued is read as what it was issued for. -/
theorem registrationOf_issue (h : r.issue now guid = .ok key) (trust : TrustPolicy) :
  ∃ validTo, now.day.addDays? r.evaluationDays = some validTo ∧
    Eligibility.registrationOf trust key = .ok ((spec now validTo guid).registration key)
  := by
  obtain ⟨validTo, p, hvalidTo, hp, hkey⟩ := issue_eq_ok_iff.1 h
  obtain ⟨d, m, hd, -, hdescribes⟩ := LicenseSpec.describes_of_issue hp hkey <| by
    rintro _ ⟨⟩
  use validTo, hvalidTo
  rw [Eligibility.registrationOf, License.ofText_issue hkey]
  change (LicenseError.ofKey (DecodedKey.ofText key) >>= _) = _
  rw [hd, ← hdescribes.payload_registration (by rintro ⟨⟩)]
  rfl

theorem isActive_of_issue (h : r.issue now guid = .ok key) :
  r.isActive now.day key = true
  := by
  obtain ⟨validTo, hvalidTo, hregistration⟩ := registrationOf_issue h r.trust
  have hday := Date.ofDay?_eq_some_iff.1 hvalidTo
  have hfirst : now.day ≤ now.day := Int.le_refl now.day.day
  have hlast : now.day ≤ validTo := by
    change now.day.day ≤ validTo.day
    omega
  rw [isActive, hregistration]
  change (_ && (decide (now.day ≤ now.day) && decide (now.day ≤ validTo))) = true
  rw [decide_eq_true hfirst, decide_eq_true hlast]
  rfl

/-- A new key has no blank characters around it and is not empty. -/
theorem trim_of_issue (h : r.issue now guid = .ok key) :
  Text.trim key = key ∧ key ≠ ""
  := by
  obtain ⟨_, _, -, -, hkey⟩ := issue_eq_ok_iff.1 h
  obtain ⟨_, _, -, -, -, hkeyText⟩ := Issuer.issue_eq_ok hkey
  obtain ⟨c, cs, hcs, -, -⟩ := Payload.toList_keyText hkeyText
  use Payload.trim_keyText hkeyText
  rintro rfl
  cases hcs

/-- A new key is appended to a configuration in which none is active. -/
theorem add?_of_issue {c : Configuration} (h : r.issue now guid = .ok key)
    (hnone : r.findActive? now.day c = none) :
  c.add? key = some { c with licenses := c.licenses ++ [key] }
  := by
  have habsent : key ∉ c.keys := by
    intro hmem
    apply List.find?_eq_none.1 hnone key hmem
    apply isActive_of_issue h
  unfold Configuration.add?
  dsimp only
  rw [(trim_of_issue h).1, List.contains_eq_mem, decide_eq_false habsent]
  rfl

end

/-! ### The store -/

variable {r : Registrar} {today : Date} {key : String} {f g f' : Files}

/-- The ways in which a key is entered into the store, each with what it comes to and how the
files change. -/
inductive Entered (r : Registrar) (today : Date) (key : String) (f : Files) :
    Except LicenseError Outcome → Files → Prop where
  | failed {e : LicenseError} {f' : Files} (drift : f.Drift f') :
    Entered r today key f (.error e) f'
  | found {c : Configuration} {other : String} {f' : Files} (drift : f.Drift f')
    (loaded : Configuration.ofContents? f'.store = some c)
    (active : r.findActive? today c = some other) :
    Entered r today key f (.ok (.alreadyRegistered other)) f'
  | added {c : Configuration} {g : Files} (drift : f.Drift g)
    (loaded : Configuration.ofContents? g.store = some c)
    (inactive : r.findActive? today c = none) :
    Entered r today key f (.ok (.registered key))
      (g.afterWrite .store ((c.add? key).getD c).text)

theorem ends_enter {o : Except LicenseError Outcome} (h : (r.enter today key).Ends f o f') :
  r.Entered today key f o f'
  := by
  rcases Action.ends_bind_iff.1 h with ⟨c, g, hload, hrest⟩ | ⟨e, hfail, rfl⟩
  · obtain ⟨hdrift, ⟨_, ⟨⟩⟩ | ⟨⟨⟩, -⟩ | ⟨_, ⟨⟩, hstore, hc⟩⟩ := Configuration.ends_load hload
    rw [← hstore] at hc
    split at hrest
    · rename_i other hactive
      obtain ⟨rfl, rfl⟩ := Action.ends_pure_iff.1 hrest
      apply Entered.found hdrift hc hactive
    · rename_i hnone
      rcases Action.ends_bind_iff.1 hrest with ⟨_, _, hsave, hdone⟩ | ⟨e, hfail, rfl⟩
      · obtain ⟨rfl, rfl⟩ := Action.ends_pure_iff.1 hdone
        obtain ⟨-, _, ⟨⟩⟩ | ⟨-, g', hdrift', hcontents, rfl⟩ := Files.ends_replace hsave
        apply Entered.added (hdrift.trans hdrift') _ hnone
        rw [← hc]
        exact congrArg Configuration.ofContents? (congrFun hcontents .store)
      · obtain ⟨hdrift', -⟩ | ⟨⟨⟩, -⟩ := Files.ends_replace hfail
        apply Entered.failed (hdrift.trans hdrift')
  · apply Entered.failed (Configuration.ends_load hfail).1

theorem Entered.of_drift {o : Except LicenseError Outcome} (hfg : f.Drift g)
    (h : r.Entered today key g o f') :
  r.Entered today key f o f'
  := by
  cases h with
  | failed drift => apply Entered.failed (hfg.trans drift)
  | found drift loaded active => apply Entered.found (hfg.trans drift) loaded active
  | added drift loaded inactive => apply Entered.added (hfg.trans drift) loaded inactive

theorem ends_store {o : Except LicenseError Outcome} (h : (r.store today key).Ends f o f') :
  r.Entered today key f o f'
  := by
  rcases Action.ends_except_bind_iff.1 h with ⟨_, -, hrun⟩ | ⟨e, -, rfl, rfl⟩
  · have hfailed {f f' : Files} {e : LicenseError}
        (h : (r.enter today key).Ends f (.error e) f') : f.Drift f' := by
      cases ends_enter h with
      | failed drift => apply drift
    obtain ⟨g, hdrift, hentered⟩ := Action.ends_retry hfailed hrun
    apply (ends_enter hentered).of_drift hdrift
  · apply Entered.failed (.refl f')

/-- How looking for an active key in the store ends. -/
theorem ends_findRegistered {o : Except LicenseError (Option String)}
    (h : (r.findRegistered today).Ends f o f') :
  f.Drift f' ∧ ∀ key?, o = .ok key? →
    ∃ c, Configuration.ofContents? f'.store = some c ∧ r.findActive? today c = key?
  := by
  rcases Action.ends_except_bind_iff.1 h with ⟨_, -, hrun⟩ | ⟨e, -, rfl, rfl⟩
  · have hload {f f' : Files} {e : LicenseError}
        (h : Configuration.load.Ends f (.error e) f') : f.Drift f' :=
      (Configuration.ends_load h).1
    rcases Action.ends_bind_iff.1 hrun with ⟨c, g, hretry, hdone⟩ | ⟨e, hretry, rfl⟩
    · obtain ⟨rfl, rfl⟩ := Action.ends_pure_iff.1 hdone
      obtain ⟨g', hdrift, hloaded⟩ := Action.ends_retry hload hretry
      obtain ⟨hdrift', ⟨_, ⟨⟩⟩ | ⟨⟨⟩, -⟩ | ⟨_, ⟨⟩, hstore, hc⟩⟩ := Configuration.ends_load hloaded
      use hdrift.trans hdrift'
      rintro _ ⟨⟩
      use c
      rw [hstore]
      use hc
    · obtain ⟨g', hdrift, hloaded⟩ := Action.ends_retry hload hretry
      use hdrift.trans (hload hloaded)
      rintro _ ⟨⟩
  · use .refl f'
    rintro _ ⟨⟩

/-! ### The record -/

/-- The record allows a new evaluation to start on the day, if nothing changes it before it
is read. -/
def Admits (r : Registrar) (today : Date) (f : Files) : Prop :=
  ∀ text, f.record = some text → f.Leaves .record →
    Eligibility.ofRecord r.trust r.cooldownDays today text = .eligible

/-- Without a record a new evaluation may start. -/
theorem run_eligibility_of_none (h : f.record = none) :
  (r.eligibility today).run f = (.eligible, f)
  := by
  rw [eligibility]
  change (if f.record.isNone = true then _ else _ : StateM Files Eligibility).run f = _
  rw [h]
  rfl

/-- A record is read and decides, unless it cannot be read. -/
theorem run_eligibility_of_some {text : String} (h : f.record = some text) :
  (r.eligibility today).run f =
    match (r.retry (Files.read .record)).run.run f with
    | (.error _, g) => (.blocked .unreadable, g)
    | (.ok text, g) => (.ofRecord r.trust r.cooldownDays today text, g)
  := by
  rw [eligibility]
  change (if f.record.isNone = true then _ else _ : StateM Files Eligibility).run f = _
  rw [h]
  change ((r.retry (Files.read .record)).run >>= _).run f = _
  rw [StateT.run_bind]
  rcases (r.retry (Files.read .record)).run.run f with ⟨_ | _, g⟩
  · rfl
  · rfl

theorem run_eligibility (r : Registrar) (today : Date) (f : Files) :
  f.Drift ((r.eligibility today).run f).2 ∧
    (((r.eligibility today).run f).1 = .eligible → r.Admits today f)
  := by
  cases hrecord : f.record with
  | none =>
    rw [run_eligibility_of_none hrecord]
    use .refl f
    intro _ text htext
    rw [hrecord] at htext
    cases htext
  | some text =>
    have hread {f f' : Files} {e : LicenseError}
        (h : (Files.read .record).Ends f (.error e) f') : f.Drift f' :=
      (Files.ends_read h).1
    rw [run_eligibility_of_some hrecord]
    rcases hretry : (r.retry (Files.read .record)).run.run f with ⟨e | text', g⟩
    · obtain ⟨g', hdrift, hfail⟩ := Action.ends_retry hread hretry
      use hdrift.trans (hread hfail)
      rintro ⟨⟩
    · obtain ⟨g', hdrift, hdone⟩ := Action.ends_retry hread hretry
      obtain ⟨hdrift', ⟨_, ⟨⟩⟩ | ⟨_, ⟨⟩, -, hcontents⟩⟩ := Files.ends_read hdone
      use hdrift.trans hdrift'
      intro heligible text'' htext hleaves
      have hrecord' := hdrift.contents .record hleaves
      rw [hcontents] at hrecord'
      cases hrecord'.trans htext
      apply heligible

/-- A record that can be read decides. -/
theorem run_eligibility_of_read {text : String}
    (h : f.record = some text) (hleaves : f.Leaves .record)
    (hread : ∀ e, ((r.retry (Files.read .record)).run.run f).1 ≠ .error e) :
  ((r.eligibility today).run f).1 = .ofRecord r.trust r.cooldownDays today text
  := by
  have hfail {f f' : Files} {e : LicenseError}
      (h : (Files.read .record).Ends f (.error e) f') : f.Drift f' :=
    (Files.ends_read h).1
  rw [run_eligibility_of_some h]
  rcases hretry : (r.retry (Files.read .record)).run.run f with ⟨e | text', g⟩
  · rw [hretry] at hread
    exact absurd rfl (hread e)
  · obtain ⟨g', hdrift, hdone⟩ := Action.ends_retry hfail hretry
    obtain ⟨-, ⟨_, ⟨⟩⟩ | ⟨_, ⟨⟩, -, hcontents⟩⟩ := Files.ends_read hdone
    have hrecord := hdrift.contents .record hleaves
    rw [hcontents] at hrecord
    cases hrecord.trans h
    rfl

/-- The key is noted in the record, or that was not possible. -/
def Noted (key : String) (f f' : Files) : Prop :=
  f.Drift f' ∨
    ∃ g, f.Drift g ∧ f' = g.afterWrite .record (EvaluationRecord.text ⟨some key⟩)

/-- Noting a key does not change what a registration comes to. -/
theorem ends_noteRegistered_bind {outcome : Outcome} {o : Except LicenseError Outcome}
    (h : ((monadLift (r.noteRegistered key) : FileAction Unit) >>= fun _ => pure outcome).Ends
      f o f') :
  o = .ok outcome ∧ Noted key f f'
  := by
  rw [Action.ends_state_bind_iff] at h
  obtain ⟨rfl, rfl⟩ := Action.ends_pure_iff.1 h
  use rfl
  have hnote {f f' : Files} {e : LicenseError} (h : (note key).Ends f (.error e) f') :
      f.Drift f' := by
    obtain ⟨hdrift, -⟩ | ⟨⟨⟩, -⟩ := Files.ends_replace h
    apply hdrift
  have hrun : ((r.noteRegistered key).run f).2 = ((r.retry (note key)).run.run f).2 := rfl
  rcases hretry : (r.retry (note key)).run.run f with ⟨o, f'⟩
  obtain ⟨g, hdrift, hdone⟩ := Action.ends_retry hnote hretry
  obtain ⟨hdrift', -⟩ | ⟨-, g', hdrift', -, hwritten⟩ := Files.ends_replace hdone
  · left
    rw [hrun, hretry]
    apply hdrift.trans hdrift'
  · right
    use g', hdrift.trans hdrift'
    rw [hrun, hretry, hwritten]

/-! ### Registrations -/

variable [SignatureScheme] {now : Instant} {guid : Guid}

/-- The courses of a registration, each with what it comes to and how the files change. -/
inductive Course (r : Registrar) (now : Instant) (guid : Guid) (f : Files) :
    Except LicenseError Outcome → Files → Prop where
  | failed {e : LicenseError} {f' : Files} (drift : f.Drift f') : Course r now guid f (.error e) f'
  | refused {e : Eligibility} {f' : Files} (drift : f.Drift f') :
    Course r now guid f (.ok (.ineligible e)) f'
  | running {c : Configuration} {key : String} {f' : Files} (drift : f.Drift f')
    (loaded : Configuration.ofContents? f'.store = some c)
    (active : r.findActive? now.day c = some key) :
    Course r now guid f (.ok (.alreadyRegistered key)) f'
  | found {c : Configuration} {key : String} {g f' : Files} (admitted : r.Admits now.day f)
    (drift : f.Drift g) (loaded : Configuration.ofContents? g.store = some c)
    (active : r.findActive? now.day c = some key) (noted : Noted key g f') :
    Course r now guid f (.ok (.alreadyRegistered key)) f'
  | added {c : Configuration} {key : String} {g f' : Files} (admitted : r.Admits now.day f)
    (issued : r.issue now guid = .ok key) (drift : f.Drift g)
    (loaded : Configuration.ofContents? g.store = some c)
    (inactive : r.findActive? now.day c = none)
    (noted : Noted key (g.afterWrite .store
      ({ c with licenses := c.licenses ++ [key] } : Configuration).text) f') :
    Course r now guid f (.ok (.registered key)) f'

theorem ends_register {o : Except LicenseError Outcome} (h : (r.register now guid).Ends f o f') :
  r.Course now guid f o f'
  := by
  obtain ⟨hdrift, hadmits⟩ := run_eligibility r now.day f
  rw [register, liftM, Action.ends_state_bind_iff] at h
  generalize (r.eligibility now.day).run f = x at h hdrift hadmits
  rcases x with ⟨e, g⟩
  cases e with
  | eligible =>
    rcases Action.ends_except_bind_iff.1 h with ⟨key, hkey, hrest⟩ | ⟨e, -, rfl, rfl⟩
    · rcases Action.ends_bind_iff.1 hrest with ⟨outcome, g', hstore, hnote⟩ | ⟨e, hfail, rfl⟩
      · cases ends_store hstore with
        | found drift loaded active =>
          obtain ⟨rfl, hnoted⟩ := ends_noteRegistered_bind hnote
          apply Course.found (hadmits rfl) (hdrift.trans drift) loaded active hnoted
        | added drift loaded inactive =>
          rw [add?_of_issue hkey inactive] at hnote
          obtain ⟨rfl, hnoted⟩ := ends_noteRegistered_bind hnote
          apply Course.added (hadmits rfl) hkey (hdrift.trans drift) loaded inactive hnoted
      · cases ends_store hfail with
        | failed drift => apply Course.failed (hdrift.trans drift)
    · apply Course.failed hdrift
  | withinEvaluation validTo =>
    rcases Action.ends_bind_iff.1 h with ⟨key?, g', hfind, hdone⟩ | ⟨e, hfail, rfl⟩
    · obtain ⟨hdrift', hfound⟩ := ends_findRegistered hfind
      obtain ⟨c, hc, hactive⟩ := hfound key? rfl
      cases key? with
      | none =>
        obtain ⟨rfl, rfl⟩ := Action.ends_pure_iff.1 hdone
        apply Course.refused (hdrift.trans hdrift')
      | some key =>
        obtain ⟨rfl, rfl⟩ := Action.ends_pure_iff.1 hdone
        apply Course.running (hdrift.trans hdrift') hc hactive
    · apply Course.failed (hdrift.trans (ends_findRegistered hfail).1)
  | withinCooldown eligibleAfter =>
    obtain ⟨rfl, rfl⟩ := Action.ends_pure_iff.1 h
    apply Course.refused hdrift
  | blocked fault =>
    obtain ⟨rfl, rfl⟩ := Action.ends_pure_iff.1 h
    apply Course.refused hdrift

/-! ### When nothing fails -/

/-- Whether a new evaluation may start on the day, by what the record contains. -/
def judgement (r : Registrar) (today : Date) : (record : Option String) → Eligibility
  | none => .eligible
  | some text => .ofRecord r.trust r.cooldownDays today text

omit [SignatureScheme] in
/-- When nothing fails, the record decides. -/
theorem run_eligibility_of_calm (r : Registrar) (today : Date) (h : f.Calm) :
  ∃ n, (r.eligibility today).run f = (r.judgement today f.record, { f with reads := n })
  := by
  rcases Option.eq_none_or_eq_some f.record with hnone | ⟨text, htext⟩
  · use f.reads
    have hjudged : r.judgement today f.record = .eligible := by
      rw [hnone]
      rfl
    rw [run_eligibility_of_none hnone, hjudged]
  · use f.reads + 1
    have hjudged : r.judgement today f.record =
        .ofRecord r.trust r.cooldownDays today text := by
      rw [htext]
      rfl
    have hretry : (r.retry (Files.read .record)).Ends f (.ok text)
        { f with reads := f.reads + 1 } :=
      h.ends_retry_read .record htext _
    rw [run_eligibility_of_some htext, hretry, hjudged]

omit [SignatureScheme] in
theorem judgement_eq_eligible_iff {today : Date} {record : Option String} :
  r.judgement today record = .eligible ↔
    ∀ text, record = some text →
      Eligibility.ofRecord r.trust r.cooldownDays today text = .eligible
  := by
  cases record with
  | none =>
    constructor
    · rintro - _ ⟨⟩
    · intro _
      rfl
  | some text =>
    constructor
    · rintro h _ ⟨⟩
      apply h
    · intro h
      apply h text rfl

omit [SignatureScheme] in
/-- What is done under the lock of the store is done when the lock can be had. -/
theorem ends_locked_iff {α : Type} {act : FileAction α} {o : Except LicenseError α}
    (hlock : r.lockUsable = true) :
  (do let _ ← r.lockStore; act : FileAction α).Ends f o f' ↔ act.Ends f o f'
  := by
  have hlockStore : r.lockStore = .ok (Lock.fileName r.options.licenseStorePath) := by
    rw [lockStore, hlock]
    rfl
  rw [hlockStore]
  rfl

omit [SignatureScheme] in
/-- Without the lock of the store, nothing is done. -/
theorem ends_unlocked {α : Type} {act : FileAction α} (hlock : r.lockUsable = false) :
  (do let _ ← r.lockStore; act : FileAction α).Ends f (.error .lock) f
  := by
  have hlockStore : r.lockStore = .error .lock := by
    rw [lockStore, hlock]
    rfl
  rw [hlockStore]
  rfl

omit [SignatureScheme] in
/-- When nothing fails, a key is not entered into a store in which one is active. -/
theorem ends_store_of_calm_of_some (key : String) {c : Configuration} {today : Date}
    {other : String} (h : f.Calm) (hlock : r.lockUsable = true)
    (hc : Configuration.ofContents? f.store = some c)
    (hactive : r.findActive? today c = some other) :
  ∃ n, (r.store today key).Ends f (.ok (.alreadyRegistered other)) { f with reads := n }
  := by
  obtain ⟨n, hload⟩ := Configuration.ends_load_of_calm h hc
  have henter : (r.enter today key).Ends f (.ok (.alreadyRegistered other))
      { f with reads := n } := by
    apply Action.ends_bind_iff.2
    left
    use c, { f with reads := n }, hload
    rw [hactive]
    rfl
  use n
  apply (ends_locked_iff hlock).2
  apply Action.retry_ends henter
  rintro _ ⟨⟩

omit [SignatureScheme] in
/-- When nothing fails, a key is entered into a store in which none is active. -/
theorem ends_store_of_calm_of_none (key : String) {c : Configuration} {today : Date}
    (h : f.Calm)
    (hlock : r.lockUsable = true) (hc : Configuration.ofContents? f.store = some c)
    (hinactive : r.findActive? today c = none) :
  ∃ n, (r.store today key).Ends f (.ok (.registered key))
    ({ f with reads := n }.afterWrite .store ((c.add? key).getD c).text)
  := by
  obtain ⟨n, hload⟩ := Configuration.ends_load_of_calm h hc
  have hread : Files.Calm { f with reads := n } := ⟨h.schedule, h.faults⟩
  have hsave := hread.ends_replace .store ((c.add? key).getD c).text
  have henter : (r.enter today key).Ends f (.ok (.registered key))
      ({ f with reads := n }.afterWrite .store ((c.add? key).getD c).text) := by
    apply Action.ends_bind_iff.2
    left
    use c, { f with reads := n }, hload
    rw [hinactive]
    apply Action.ends_bind_iff.2
    left
    exact ⟨(), _, hsave, rfl⟩
  use n
  apply (ends_locked_iff hlock).2
  apply Action.retry_ends henter
  rintro _ ⟨⟩

/-- When nothing fails, a new key is appended to a store in which none is active. -/
theorem ends_store_of_calm {c : Configuration} (h : f.Calm) (hlock : r.lockUsable = true)
    (hissued : r.issue now guid = .ok key) (hc : Configuration.ofContents? f.store = some c)
    (hinactive : r.findActive? now.day c = none) :
  ∃ n, (r.store now.day key).Ends f (.ok (.registered key))
    ({ f with reads := n }.afterWrite .store
      ({ c with licenses := c.licenses ++ [key] } : Configuration).text)
  := by
  have hadded : (c.add? key).getD c = { c with licenses := c.licenses ++ [key] } := by
    rw [add?_of_issue hissued hinactive]
    rfl
  rw [← hadded]
  apply ends_store_of_calm_of_none key h hlock hc hinactive

omit [SignatureScheme] in
/-- When nothing fails, a key is noted in the record. -/
theorem run_noteRegistered_of_calm (h : f.Calm) :
  ((r.noteRegistered key).run f).2 = f.afterWrite .record (EvaluationRecord.text ⟨some key⟩)
  := by
  have hretry : (r.retry (note key)).Ends f (.ok ())
      (f.afterWrite .record (EvaluationRecord.text ⟨some key⟩)) := by
    apply Action.retry_ends (h.ends_replace .record _)
    rintro _ ⟨⟩
  exact congrArg Prod.snd hretry

/-- Only under its lock a license is added to the store. -/
theorem lockUsable_of_registered
    (h : (r.register now guid).Ends f (.ok (.registered key)) f') :
  r.lockUsable = true
  := by
  rw [register, liftM, Action.ends_state_bind_iff] at h
  generalize (r.eligibility now.day).run f = x at h
  rcases x with ⟨e, g⟩
  cases e with
  | eligible =>
    rcases Action.ends_except_bind_iff.1 h with ⟨_, -, hrest⟩ | ⟨_, -, ⟨⟩, -⟩
    rcases Action.ends_bind_iff.1 hrest with ⟨_, _, hstore, -⟩ | ⟨_, -, ⟨⟩⟩
    rcases Action.ends_except_bind_iff.1 hstore with ⟨_, hlocked, -⟩ | ⟨_, -, ⟨⟩, -⟩
    cases hlock : r.lockUsable with
    | true => rfl
    | false =>
      rw [lockStore, hlock] at hlocked
      cases hlocked
  | withinEvaluation validTo =>
    rcases Action.ends_bind_iff.1 h with ⟨key?, _, -, hdone⟩ | ⟨_, -, ⟨⟩⟩
    cases key? with
    | none => cases (Action.ends_pure_iff.1 hdone).1
    | some other => cases (Action.ends_pure_iff.1 hdone).1
  | withinCooldown eligibleAfter | blocked fault => cases (Action.ends_pure_iff.1 h).1

/-- When nothing fails, a registration that the record allows comes to what entering its new
key into the store comes to, and notes the license that is in the store then. -/
theorem ends_register_of_store (h : f.Calm)
    (hrecord : ∀ text, f.record = some text →
      Eligibility.ofRecord r.trust r.cooldownDays now.day text = .eligible)
    (hissued : r.issue now guid = .ok key) :
  ∃ n, ∀ {outcome : Outcome} {noted : String} {g : Files},
    (r.store now.day key).Ends { f with reads := n } (.ok outcome) g →
    outcome.key? = some noted → g.Calm →
    (r.register now guid).Ends f (.ok outcome)
      (g.afterWrite .record (EvaluationRecord.text ⟨some noted⟩))
  := by
  obtain ⟨n, heligible⟩ := run_eligibility_of_calm r now.day h
  rw [judgement_eq_eligible_iff.2 hrecord] at heligible
  use n
  intro outcome noted g hstore hnoted hg
  rw [register, liftM, Action.ends_state_bind_iff, heligible]
  apply Action.ends_except_bind_iff.2
  left
  use key, hissued
  apply Action.ends_bind_iff.2
  left
  use outcome, g, hstore
  rw [hnoted]
  apply Action.ends_state_bind_iff.2
  rw [run_noteRegistered_of_calm hg]
  rfl

/-- When nothing fails, a registration that the record allows adds a license to a store in
which none is active, and notes it in the record. -/
theorem ends_register_of_calm {c : Configuration} (h : f.Calm) (hlock : r.lockUsable = true)
    (hrecord : ∀ text, f.record = some text →
      Eligibility.ofRecord r.trust r.cooldownDays now.day text = .eligible)
    (hissued : r.issue now guid = .ok key) (hc : Configuration.ofContents? f.store = some c)
    (hinactive : r.findActive? now.day c = none) :
  ∃ n, (r.register now guid).Ends f (.ok (.registered key))
    (({ f with reads := n }.afterWrite .store
      ({ c with licenses := c.licenses ++ [key] } : Configuration).text).afterWrite
        .record (EvaluationRecord.text ⟨some key⟩))
  := by
  obtain ⟨m, hregister⟩ := ends_register_of_store h hrecord hissued
  obtain ⟨n, hstore⟩ := ends_store_of_calm (h.reads m) hlock hissued hc hinactive
  use n
  apply hregister hstore rfl
  exact ⟨h.schedule, h.faults⟩

/-- When nothing fails, a registration that the record allows finds a license that is active
in the store, and notes it in the record. -/
theorem ends_register_of_calm_of_active {c : Configuration} {other : String} (h : f.Calm)
    (hlock : r.lockUsable = true)
    (hrecord : ∀ text, f.record = some text →
      Eligibility.ofRecord r.trust r.cooldownDays now.day text = .eligible)
    (hissued : r.issue now guid = .ok key) (hc : Configuration.ofContents? f.store = some c)
    (hactive : r.findActive? now.day c = some other) :
  ∃ n, (r.register now guid).Ends f (.ok (.alreadyRegistered other))
    ({ f with reads := n }.afterWrite .record (EvaluationRecord.text ⟨some other⟩))
  := by
  obtain ⟨m, hregister⟩ := ends_register_of_store h hrecord hissued
  obtain ⟨n, hstore⟩ := ends_store_of_calm_of_some key (h.reads m) hlock hc hactive
  use n
  apply hregister hstore rfl (h.reads n)

end Registrar

end Entitlement
