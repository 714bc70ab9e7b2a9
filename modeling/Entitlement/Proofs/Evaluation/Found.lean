import Entitlement.Proofs.Evaluation.Granted

/-!
# Licenses that are found

A registration that finds an active license in the store does not look at its signature, and
not at whether it has a last day. So a license that is found can be used only if its signature
is accepted and it has not been revoked (`Registrar.grantsEvaluation_iff`), and a store with
an evaluation license that nobody has signed makes a registration succeed by which nothing is
granted (`Registrar.found_unsigned`).

A license that is found is noted in the record like one that was added. From then on an
evaluation is running if the license has a last day, as every license that was added does; a
license without one blocks all further evaluations (`Registrar.eligibility_of_noted`,
`Registrar.found_undated`).
-/

namespace Entitlement

namespace Registrar

/-! ### What an active key stands for -/

theorem exists_registration_of_isActive {r : Registrar} {today : Date} {key : String}
    (h : r.isActive today key = true) :
  ∃ d, Eligibility.registrationOf r.trust key = .ok d ∧ d.kind = .evaluation ∧
    d.isValidOn today = true
  := by
  rw [isActive] at h
  split at h
  · rename_i d hd
    obtain ⟨hkind, hvalid⟩ := Bool.and_eq_true_iff.1 h
    use d, hd, of_decide_eq_true hkind
  · cases h

section

variable [SignatureScheme] {r : Registrar} {now : Instant} {guid : Guid} {f : Files}
  {key : String} {today : Date}

/-- The key stands for a license that grants something, as one of an evaluation in its period
of validity. -/
def GrantsEvaluation (r : Registrar) (today : Date) (key : String) : Prop :=
  ∃ l g, License.ofText r.trust key = .ok l ∧ l.grant = .ok g ∧ g.kind = .evaluation ∧
    g.isValidOn today = true

/-- An active key grants something exactly if its signature is accepted and its license has
not been revoked. -/
theorem grantsEvaluation_iff (h : r.isActive today key = true) :
  ∃ l k, License.ofText r.trust key = .ok l ∧ l.decoded = .ok k ∧
    k.payload.kind = .ok .evaluation ∧ (k.payload.registration l.key).isValidOn today = true ∧
    (r.GrantsEvaluation today key ↔
      r.trust.verifySignature k = .ok () ∧
        ∀ id, k.payload.int32? .licenseId = some id → r.trust.isRevoked id = false)
  := by
  obtain ⟨d, hd, hkind, hvalid⟩ := exists_registration_of_isActive h
  obtain ⟨l, k, hl, hk, rfl⟩ := Eligibility.registrationOf_eq_ok_iff.1 hd
  have hkind' := (Payload.registration_kind_iff (by decide)).1 hkind
  obtain ⟨-, -, htrust, horigin⟩ := License.ofText_eq_ok hl
  use l, k, hl, hk, hkind', hvalid
  constructor
  · rintro ⟨l', g, hl', hg, -, -⟩
    cases hl.symm.trans hl'
    obtain ⟨k', hk', hverified, hgrant⟩ := License.grant_eq_ok_iff.1 hg
    cases hk.symm.trans hk'
    rw [htrust] at hverified hgrant
    use hverified horigin
    apply (Payload.grant_eq_ok_iff.1 hgrant).1
  · rintro ⟨hverified, hrevoked⟩
    obtain ⟨g, hgrant, hg, hgValid⟩ : ∃ g, k.payload.grant r.trust = .ok g ∧
        g.kind = .evaluation ∧ g.isValidOn today = true :=
      ⟨_, Payload.grant_eq_ok_iff.2 ⟨hrevoked, .evaluation, hkind', rfl⟩, rfl, hvalid⟩
    rw [← htrust] at hverified hgrant
    use l, g, hl, License.grant_eq_ok_iff.2 ⟨k, hk, fun _ => hverified, hgrant⟩, hg

/-- A registration that has found a license has found a key of the store, as this was when it
was read, and one of an evaluation that is in its period of validity. It grants something
exactly if its signature is accepted and its license has not been revoked. -/
theorem grantsEvaluation_of_found
    (h : ((r.register now guid).run.run f).1 = .ok (.alreadyRegistered key)) :
  (∃ g c, f.Drift g ∧ Configuration.ofContents? g.store = some c ∧ key ∈ c.keys) ∧
  ∃ l k, License.ofText r.trust key = .ok l ∧ l.decoded = .ok k ∧
    k.payload.kind = .ok .evaluation ∧ (k.payload.registration l.key).isValidOn now.day = true ∧
    (r.GrantsEvaluation now.day key ↔
      r.trust.verifySignature k = .ok () ∧
        ∀ id, k.payload.int32? .licenseId = some id → r.trust.isRevoked id = false)
  := by
  rcases hrun : (r.register now guid).run.run f with ⟨o, f'⟩
  rw [hrun] at h
  cases h
  have hcourse : ∃ g c, f.Drift g ∧ Configuration.ofContents? g.store = some c ∧
      r.findActive? now.day c = some key := by
    cases ends_register hrun with
    | @running c _ _ drift loaded active => exact ⟨f', c, drift, loaded, active⟩
    | @found c _ g _ _ drift loaded active _ => exact ⟨g, c, drift, loaded, active⟩
  obtain ⟨g, c, hdrift, hc, hfound⟩ := hcourse
  obtain ⟨hmem, hactive⟩ := isActive_of_findActive? hfound
  constructor
  · use g, c, hdrift, hc, hmem
  · apply grantsEvaluation_iff hactive

end

/-! ### What is noted -/

/-- A key that has been written to the record is in the record. -/
theorem Noted.record_of_written {key : String} {f f' : Files} (h : Noted key f f')
    (hwritten : f'.written.filter (Write.isOf .record) ≠ f.written.filter (Write.isOf .record)) :
  f'.record = some (EvaluationRecord.text ⟨some key⟩)
  := by
  rcases h with hdrift | ⟨g, -, rfl⟩
  · rw [hdrift.written] at hwritten
    exact absurd rfl hwritten
  · rfl

/-- A record with an active key says that an evaluation is running, if the license of the key
has a last day, and blocks all evaluations otherwise. -/
theorem ofRecord_of_isActive {r : Registrar} {today : Date} {key : String} {d : Registration}
    (h : r.isActive today key = true) (hd : Eligibility.registrationOf r.trust key = .ok d) :
  Eligibility.ofRecord r.trust r.cooldownDays today (EvaluationRecord.text ⟨some key⟩) =
    d.validTo.elim (.blocked .undated) .withinEvaluation
  := by
  obtain ⟨d', hd', hkind, -⟩ := exists_registration_of_isActive h
  cases hd.symm.trans hd'
  cases hvalidTo : d.validTo with
  | none =>
    obtain ⟨l, k, hl, hk, rfl⟩ := Eligibility.registrationOf_eq_ok_iff.1 hd
    have hkind' := (Payload.registration_kind_iff (by decide)).1 hkind
    apply Eligibility.ofRecord_of_hasFault
    apply EvaluationRecord.HasFault.undated (EvaluationRecord.ofText?_text _) hl hk hkind' hvalidTo
  | some validTo =>
    have hends := EvaluationRecord.endsOn_text_iff.2 ⟨d, hd, hkind, hvalidTo⟩
    rw [Eligibility.ofRecord_of_endsOn hends,
      Eligibility.ofValidTo_of_le (le_of_isActive h hd hvalidTo), Option.elim_some]

section

variable [SignatureScheme] {r : Registrar} {now : Instant} {guid : Guid} {f f' g : Files}
  {key : String} {outcome : Outcome}

/-- The key that a registration has noted is active, and if it was added by the registration
then its license has a last day. -/
theorem isActive_of_noted (h : (r.register now guid).run.run f = (.ok outcome, f'))
    (hkey : outcome.key? = some key)
    (hwritten : f'.written.filter (Write.isOf .record) ≠ f.written.filter (Write.isOf .record)) :
  f'.record = some (EvaluationRecord.text ⟨some key⟩) ∧ r.isActive now.day key = true ∧
    (outcome = .alreadyRegistered key ∨ r.issue now guid = .ok key)
  := by
  cases ends_register h with
  | refused => cases hkey
  | running drift =>
    rw [drift.written] at hwritten
    exact absurd rfl hwritten
  | found admitted drift loaded active noted =>
    cases hkey
    rw [← drift.written] at hwritten
    use noted.record_of_written hwritten, (isActive_of_findActive? active).2
    left
    rfl
  | @added c _ g _ admitted issued drift loaded inactive noted =>
    cases hkey
    have hstored : (g.afterWrite .store
        ({ c with licenses := c.licenses ++ [key] } : Configuration).text).written.filter
          (Write.isOf .record) = f.written.filter (Write.isOf .record) := by
      rw [← drift.written]
      exact (List.filter_append _ _).trans (List.append_nil _)
    rw [← hstored] at hwritten
    use noted.record_of_written hwritten, isActive_of_issue issued
    right
    apply issued

/-- After a registration has noted a license in the record, and as long as the record
contains what was written there and can be read, an evaluation is running on that day up to
the last day of the license, exactly if it has one. A license without one was not added by the
registration, and blocks all evaluations. -/
theorem eligibility_of_noted (h : (r.register now guid).run.run f = (.ok outcome, f'))
    (hkey : outcome.key? = some key)
    (hwritten : f'.written.filter (Write.isOf .record) ≠ f.written.filter (Write.isOf .record))
    (hkept : g.record = f'.record) (hleaves : g.Leaves .record)
    (hread : ∀ e, ((r.retry (Files.read .record)).run.run g).1 ≠ .error e) :
  ∃ d, Eligibility.registrationOf r.trust key = .ok d ∧
    ((∃ validTo, d.validTo = some validTo ∧ now.day ≤ validTo ∧
        ((r.eligibility now.day).run g).1 = .withinEvaluation validTo) ↔ d.validTo.isSome = true) ∧
    (d.validTo = none → outcome = .alreadyRegistered key ∧
      ((r.eligibility now.day).run g).1 = .blocked .undated)
  := by
  obtain ⟨hrecord, hactive, hcourse⟩ := isActive_of_noted h hkey hwritten
  obtain ⟨d, hd, -, -⟩ := exists_registration_of_isActive hactive
  have heligibility : ((r.eligibility now.day).run g).1 =
      d.validTo.elim (.blocked .undated) .withinEvaluation := by
    rw [run_eligibility_of_read (hkept.trans hrecord) hleaves hread]
    apply ofRecord_of_isActive hactive hd
  use d, hd
  constructor
  · constructor
    · rintro ⟨validTo, hvalidTo, -, -⟩
      rw [hvalidTo]
      rfl
    · intro hsome
      obtain ⟨validTo, hvalidTo⟩ := Option.isSome_iff_exists.1 hsome
      use validTo, hvalidTo, le_of_isActive hactive hd hvalidTo
      rw [heligibility, hvalidTo]
      rfl
  · intro hnone
    constructor
    · rcases hcourse with hfound | hissued
      · apply hfound
      · obtain ⟨validTo, -, hd'⟩ := registrationOf_issue hissued r.trust
        cases hd.symm.trans hd'
        cases hnone
    · rw [heligibility, hnone]
      rfl

/-- When nothing fails, a registration that finds a license without a last day puts it into
the record, and from then on all evaluations are blocked. -/
theorem blocked_of_found {c : Configuration} {other : String} {d : Registration} (h : f.Calm)
    (hlock : r.lockUsable = true)
    (hrecord : ∀ text, f.record = some text →
      Eligibility.ofRecord r.trust r.cooldownDays now.day text = .eligible)
    (hissued : r.issue now guid = .ok key) (hc : Configuration.ofContents? f.store = some c)
    (hactive : r.findActive? now.day c = some other)
    (hd : Eligibility.registrationOf r.trust other = .ok d) (hundated : d.validTo = none) :
  ∃ f', (r.register now guid).run.run f = (.ok (.alreadyRegistered other), f') ∧
    f'.record = some (EvaluationRecord.text ⟨some other⟩) ∧
    ((r.eligibility now.day).run f').1 = .blocked .undated
  := by
  obtain ⟨n, hends⟩ := ends_register_of_calm_of_active h hlock hrecord hissued hc hactive
  generalize hf' : Files.afterWrite _ _ _ = f' at hends
  have hcalm : f'.Calm := by
    rw [← hf']
    exact ⟨h.schedule, h.faults⟩
  have hnoted : f'.record = some (EvaluationRecord.text ⟨some other⟩) := by
    rw [← hf']
    rfl
  obtain ⟨m, heligibility⟩ := run_eligibility_of_calm r now.day hcalm
  have hjudged : r.judgement now.day f'.record = .blocked .undated := by
    rw [hnoted, judgement,
      ofRecord_of_isActive (isActive_of_findActive? hactive).2 hd, hundated, Option.elim_none]
  use f', hends, hnoted
  rw [heligibility, hjudged]

end

end Registrar

/-! ### A license that nobody has signed -/

/-- A registrar that trusts its own issuer issues the same licenses. -/
theorem exists_issue_trusted :
  ∃ key, trialRegistrar.trustingIssuer.issue (trialVisit .keyEpoch).now
    (trialVisit .keyEpoch).guid = .ok key
  := exists_issue_trial .keyEpoch List.mem_cons_self

/-- A registration on a day finds a license that is active in the store. -/
theorem ends_register_trial {f : Files} {c : Configuration} {other : String} (h : f.Calm)
    (hrecord : f.record = none) (hc : Configuration.ofContents? f.store = some c)
    (hactive : trialRegistrar.trustingIssuer.findActive? (trialVisit .keyEpoch).now.day c =
      some other) :
  ∃ n, (trialRegistrar.trustingIssuer.register (trialVisit .keyEpoch).now
      (trialVisit .keyEpoch).guid).Ends f (.ok (.alreadyRegistered other))
    ({ f with reads := n }.afterWrite .record (EvaluationRecord.text ⟨some other⟩))
  := by
  obtain ⟨key, hissued⟩ := exists_issue_trusted
  apply Registrar.ends_register_of_calm_of_active h rfl _ hissued hc hactive
  intro text htext
  rw [hrecord] at htext
  cases htext

/-- A key of an evaluation license up to a day, without a signature. -/
def unsignedKey : String := "2-2A52F637ZW"

/-- Files with a store that contains the key without a signature. -/
def unsignedFiles : Files where
  store := some ("\x7b\"licenses\":[\"" ++ unsignedKey ++ "\"]\x7d")

/-- The key without a signature is found, and grants nothing. -/
theorem Registrar.found_unsigned :
  ((trialRegistrar.trustingIssuer.register (trialVisit .keyEpoch).now
      (trialVisit .keyEpoch).guid).run.run unsignedFiles).1 =
    .ok (.alreadyRegistered unsignedKey) ∧
  ¬ trialRegistrar.trustingIssuer.GrantsEvaluation (trialVisit .keyEpoch).now.day unsignedKey
  := by
  have hstore : (Configuration.ofContents? unsignedFiles.store).bind
      (trialRegistrar.trustingIssuer.findActive? (trialVisit .keyEpoch).now.day) =
        some unsignedKey := by
    decide +kernel
  obtain ⟨c, hc, hactive⟩ := Option.bind_eq_some_iff.1 hstore
  obtain ⟨n, hends⟩ := ends_register_trial ⟨rfl, rfl⟩ rfl hc hactive
  constructor
  · exact congrArg Prod.fst hends
  · rintro ⟨l, g, hl, hg, -, -⟩
    have hgrant : (License.ofText trialRegistrar.trustingIssuer.trust unsignedKey >>=
        License.grant).toOption = none := by
      decide +kernel
    rw [hl] at hgrant
    change l.grant.toOption = none at hgrant
    rw [hg] at hgrant
    cases hgrant

/-- A key that the registrar itself has issued is found, and its license can be used. -/
theorem Registrar.grantsEvaluation_of_found_trial :
  ∃ key f, ((trialRegistrar.trustingIssuer.register (trialVisit .keyEpoch).now
      (trialVisit .keyEpoch).guid).run.run f).1 = .ok (.alreadyRegistered key) ∧
    trialRegistrar.trustingIssuer.GrantsEvaluation (trialVisit .keyEpoch).now.day key
  := by
  obtain ⟨key, hkey⟩ := exists_issue_trial .keyEpoch List.mem_cons_self
  have hissued : trialRegistrar.trustingIssuer.issue (trialVisit .keyEpoch).now
      (trialVisit .keyEpoch).guid = .ok key := hkey
  obtain ⟨htrim, hempty⟩ := trim_of_issue hkey
  have hnothing : Configuration.ofContents? none = some {} := rfl
  obtain ⟨c, hc, hkeys⟩ := Configuration.exists_ofContents?_add hnothing htrim hempty
  generalize (((({} : Configuration).add? key).getD {}).text) = text at hc
  have hissuedActive := isActive_of_issue hissued
  have hactive : trialRegistrar.trustingIssuer.findActive? (trialVisit .keyEpoch).now.day c =
      some key := by
    cases hfound : trialRegistrar.trustingIssuer.findActive? (trialVisit .keyEpoch).now.day c with
    | none =>
      exact absurd hissuedActive (List.find?_eq_none.1 hfound key ((hkeys key).2 (.inl rfl)))
    | some other =>
      rcases (hkeys other).1 (isActive_of_findActive? hfound).1 with rfl | hmem
      · rfl
      · cases hmem
  obtain ⟨n, hends⟩ := ends_register_trial (f := { store := some text }) ⟨rfl, rfl⟩ rfl hc hactive
  have hfound := congrArg Prod.fst hends
  obtain ⟨-, l, k, hl, hk, -, -, hiff⟩ := grantsEvaluation_of_found hfound
  obtain ⟨validTo, l', -, hl', hgrant⟩ :=
    grant_of_issue hkey trialRegistrar.find?_trustingIssuer fun m => accepts_trial
  cases hl.symm.trans hl'
  obtain ⟨k', hk', hverified, hpayload⟩ := License.grant_eq_ok_iff.1 hgrant
  cases hk.symm.trans hk'
  obtain ⟨-, -, htrust, horigin⟩ := License.ofText_eq_ok hl
  rw [htrust] at hverified hpayload
  use key, { store := some text }, hfound
  apply hiff.2
  use hverified horigin, (Payload.grant_eq_ok_iff.1 hpayload).1

/-! ### A license without a last day -/

/-- A key of an evaluation license without a last day, with the signature of the issuer. -/
def undatedKey : String :=
  "2-2A52Y3SJA4SM7GPGYAVXY2SBC95XV6ALJA4Q6MC8KHU7RLFDQSL9655MLC" ++
    "9BT7AMDS49B6JXXVUATNA8VQ7BHEPHPV7T7UKB2VDG52TAGG5DXRSGZW"

/-- Files with a store that contains the key without a last day. -/
def undatedFiles : Files where
  store := some ("\x7b\"licenses\":[\"" ++ undatedKey ++ "\"]\x7d")

/-- A registration that finds the key without a last day puts it into the record, although a
new evaluation could have started, and then the record blocks all evaluations. -/
theorem Registrar.found_undated :
  ∃ f', (trialRegistrar.trustingIssuer.register (trialVisit .keyEpoch).now
      (trialVisit .keyEpoch).guid).run.run undatedFiles =
        (.ok (.alreadyRegistered undatedKey), f') ∧
    ((trialRegistrar.trustingIssuer.eligibility (trialVisit .keyEpoch).now.day).run
      undatedFiles).1 = .eligible ∧
    f'.record = some (EvaluationRecord.text ⟨some undatedKey⟩) ∧
    ((trialRegistrar.trustingIssuer.eligibility (trialVisit .keyEpoch).now.day).run f').1 =
      .blocked .undated
  := by
  have hrun : (Configuration.ofContents? undatedFiles.store).bind
      (trialRegistrar.trustingIssuer.findActive? (trialVisit .keyEpoch).now.day) =
        some undatedKey ∧
      (Eligibility.registrationOf trialRegistrar.trustingIssuer.trust
        undatedKey).toOption.map (·.validTo) = some none := by
    decide +kernel
  obtain ⟨hstore, hregistration⟩ := hrun
  obtain ⟨c, hc, hactive⟩ := Option.bind_eq_some_iff.1 hstore
  obtain ⟨d, hd, hundated⟩ := Option.map_eq_some_iff.1 hregistration
  obtain ⟨key, hissued⟩ := exists_issue_trusted
  obtain ⟨f', hends, hrecord, hblocked⟩ := blocked_of_found ⟨rfl, rfl⟩ rfl (by rintro _ ⟨⟩)
    hissued hc hactive (eq_ok_of_toOption hd) hundated
  use f', hends
  constructor
  · rw [run_eligibility_of_none rfl]
  · use hrecord, hblocked

/-- When nothing fails, a license that the registration has added is one of an evaluation that
is running. -/
theorem Registrar.eligibility_of_noted_trial :
  ∃ key f' validTo, (trialRegistrar.trustingIssuer.register (trialVisit .keyEpoch).now
      (trialVisit .keyEpoch).guid).run.run {} = (.ok (.registered key), f') ∧
    (trialVisit .keyEpoch).now.day ≤ validTo ∧
    ((trialRegistrar.trustingIssuer.eligibility (trialVisit .keyEpoch).now.day).run f').1 =
      .withinEvaluation validTo
  := by
  obtain ⟨key, hissued⟩ := exists_issue_trusted
  have hcalm : Files.Calm {} := ⟨rfl, rfl⟩
  have hnothing : Configuration.ofContents? (none : Option String) = some {} := rfl
  obtain ⟨n, hends⟩ :=
    ends_register_of_calm hcalm rfl (by rintro _ ⟨⟩) hissued hnothing rfl
  generalize hf' : Files.afterWrite _ _ _ = f' at hends
  have hkept : f'.Calm := by
    rw [← hf']
    exact ⟨rfl, rfl⟩
  have hrecord : f'.contents .record = some (EvaluationRecord.text ⟨some key⟩) := by
    rw [← hf']
    rfl
  have hwritten : f'.written.filter (Write.isOf .record) ≠ [] := by
    rw [← hf']
    rintro ⟨⟩
  have hread : ∀ e, ((trialRegistrar.trustingIssuer.retry (Files.read .record)).run.run f').1 ≠
      .error e := by
    intro e
    have hretry : (trialRegistrar.trustingIssuer.retry (Files.read .record)).Ends f' _ _ :=
      Action.retry_ends (hkept.ends_read hrecord) (by rintro _ ⟨⟩) _
    rw [hretry]
    rintro ⟨⟩
  obtain ⟨d, hd, hiff, -⟩ :=
    eligibility_of_noted hends rfl hwritten rfl (hkept.leaves .record) hread
  obtain ⟨validTo, -, hd'⟩ := registrationOf_issue hissued trialRegistrar.trustingIssuer.trust
  cases hd.symm.trans hd'
  obtain ⟨validTo', -, hle, heligibility⟩ := hiff.2 rfl
  use key, f', validTo', hends, hle, heligibility

end Entitlement
