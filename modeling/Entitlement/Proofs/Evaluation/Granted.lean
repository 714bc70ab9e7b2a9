import Entitlement.Proofs.Consumption.Completeness
import Entitlement.Proofs.Evaluation.Window
import Entitlement.Proofs.Store.Configuration

/-!
# New evaluations can be used

A license that a registration has added to the store grants what is asked, on each day of the
evaluation, whatever else the store contains (`Registrar.registered_granted`). No other
license in the store can take its place: one that is the same would be active on the first
day, and then nothing would have been added.
-/

namespace Entitlement

/-- The last writing of a file. -/
def Files.lastWrite? (f : Files) (file : FileName) : Option Write :=
  (f.written.filter (Write.isOf file)).getLast?

namespace Configuration

/-- What is loaded is what the store contains, unless it cannot be read. -/
theorem run_load {policy : RetryPolicy} {f : Files} {c : Configuration}
    (hleaves : f.Leaves .store) (hread : ∀ e, ((policy.run load).run.run f).1 ≠ .error (.io e))
    (hc : ofContents? f.store = some c) :
  ((policy.run load).run.run f).1 = .ok c
  := by
  have hload {f f' : Files} {e : LicenseError} (h : load.Ends f (.error e) f') : f.Drift f' :=
    (ends_load h).1
  rcases hrun : (policy.run load).run.run f with ⟨o, f'⟩
  rw [hrun] at hread
  obtain ⟨g, hdrift, hends⟩ := Action.ends_retry hload hrun
  have hstore : g.store = f.store := hdrift.contents .store hleaves
  obtain ⟨-, ⟨e, rfl⟩ | ⟨rfl, hnone⟩ | ⟨c', rfl, -, hc'⟩⟩ := ends_load hends
  · cases hread e rfl
  · rw [hstore, hc] at hnone
    cases hnone
  · rw [hstore, hc] at hc'
    cases hc'
    rfl

/-- When nothing fails, what the store contains is loaded. -/
theorem run_load_of_calm {f : Files} {c : Configuration} (h : f.Calm)
    (hc : ofContents? f.store = some c) (policy : RetryPolicy) :
  ((policy.run load).run.run f).1 = .ok c
  := by
  obtain ⟨n, hretry⟩ := ends_retry_load_of_calm h hc policy
  exact congrArg Prod.fst hretry

end Configuration

namespace Registrar

theorem registrationOf_of_ofText {trust : TrustPolicy} {key : String} {l : License}
    (h : License.ofText trust key = .ok l) :
  Eligibility.registrationOf trust key = l.registration
  := by
  rw [Eligibility.registrationOf, h]
  rfl

/-- A key is active when one that stands for the same license is. -/
theorem isActive_of_same {r : Registrar} {today : Date} {key other : String} {l m : License}
    (hl : License.ofText r.trust key = .ok l) (hm : License.ofText r.trust other = .ok m)
    (hsame : l.same m = true) (hactive : r.isActive today key = true) :
  r.isActive today other = true
  := by
  have hidentity := (License.same_iff l m).1 hsame
  rw [License.identity, License.identity] at hidentity
  obtain ⟨-, hfields⟩ := Prod.mk.inj hidentity
  rw [isActive, registrationOf_of_ofText hl] at hactive
  rw [isActive, registrationOf_of_ofText hm]
  cases hdl : l.decoded with
  | error e =>
    rw [License.registration, hdl] at hactive
    cases hactive
  | ok d =>
    cases hdm : m.decoded with
    | error e =>
      rw [hdl, hdm] at hfields
      cases hfields
    | ok d' =>
      rw [hdl, hdm] at hfields
      have hpayload : d.payload = d'.payload := Sum.inr.inj hfields
      rw [License.registration, hdl] at hactive
      rw [License.registration, hdm]
      change (decide ((d'.payload.registration m.key).kind = .evaluation) &&
        (d'.payload.registration m.key).isValidOn today) = true
      rw [← hpayload]
      apply hactive

/-- The licenses of the keys of a store are those of a source for it, when it can be read. -/
theorem yields_store {trust : TrustPolicy} {policy : RetryPolicy} {f : Files}
    {c : Configuration} (h : ((policy.run Configuration.load).run.run f).1 = .ok c) :
  (Request.yields [.ofStore trust policy f]).flatten = Supply.ofKeys trust c.keys
  := by
  have hstored : (Supply.storedKeys policy f).1 = c.keys := by
    unfold Supply.storedKeys
    generalize (policy.run Configuration.load).run.run f = x at h
    rcases x with ⟨o, g⟩
    cases h
    rfl
  have hyields : Request.yields [.ofStore trust policy f] =
      [Supply.ofKeys trust (Supply.storedKeys policy f).1] := rfl
  rw [hyields, hstored]
  simp only [List.flatten_cons, List.flatten_nil, List.append_nil]

variable [SignatureScheme]

/-- What is signed for a new license. -/
def message (r : Registrar) (now : Instant) (guid : Guid) : Except LicenseError Bytes := do
  match now.day.addDays? r.evaluationDays with
  | none => throw (.invalidPayload .evaluationOutOfRange)
  | some validTo =>
    let p ← LicenseError.ofKey (spec now validTo guid).payload
    r.issuer.message .current p

/-- The license of a new key allows all features, without a namespace, on the days of the
evaluation. -/
theorem grant_of_issue {r : Registrar} {now : Instant} {guid : Guid} {key : String}
    {trust : TrustPolicy} (h : r.issue now guid = .ok key)
    (hring : trust.ring.find? r.issuer.id = some r.issuer.publicKey)
    (haccepts : ∀ m, r.message now guid = .ok m → SignatureScheme.Accepts r.issuer.secret m) :
  ∃ validTo l, now.day.addDays? r.evaluationDays = some validTo ∧
    License.ofText trust key = .ok l ∧ l.grant = .ok (spec now validTo guid).grant
  := by
  obtain ⟨validTo, p, hvalidTo, hp, hkey⟩ := issue_eq_ok_iff.1 h
  obtain ⟨d, m, hd, hissued, hdescribes⟩ := LicenseSpec.describes_of_issue hp hkey <| by
    rintro _ ⟨⟩
  use validTo, ⟨key, DecodedKey.ofText key, trust, .keyText⟩, hvalidTo,
    License.ofText_issue hkey trust
  have hkind : (spec now validTo guid).kind ≠ .unknown := by rintro ⟨⟩
  have hrevoked : ∀ id, (spec now validTo guid).licenseId = some id →
      trust.isRevoked id = false := by
    rintro _ ⟨⟩
  apply LicenseSpec.grant_of_issued hkind hd hissued hdescribes hrevoked hring
  apply haccepts m
  rw [message, hvalidTo]
  change (LicenseError.ofKey (spec now validTo guid).payload >>= _) = _
  rw [hp]
  apply hissued.message

theorem find?_trustingIssuer (r : Registrar) :
  r.trustingIssuer.trust.ring.find? r.issuer.id = some r.issuer.publicKey
  := by
  rw [trustingIssuer, TrustPolicy.find?_insertKey, if_pos rfl]

/-- A license that is active and was added to a configuration in which none was active has
the first place among those that are the same. -/
theorem hasLeader_of_added {r : Registrar} {q : Request} {day today : Date} {c : Configuration}
    {key : String} {l : License} (htrim : Text.trim key = key) (hempty : key ≠ "")
    (hinactive : r.findActive? day c = none) (hactive : r.isActive day key = true)
    (hl : License.ofText r.trust key = .ok l) (hgranted : q.isGrantedBy today l = true) :
  q.HasLeader today
    (Supply.ofKeys r.trust ({ c with licenses := c.licenses ++ [key] } : Configuration).keys)
  := by
  have hmem : l ∈ Supply.ofKeys r.trust
      ({ c with licenses := c.licenses ++ [key] } : Configuration).keys := by
    apply List.mem_filterMap.2
    use key, (Configuration.mem_keys_append htrim hempty).2 (.inl rfl)
    rw [hl]
    rfl
  obtain ⟨before, after, hsplit, habsent⟩ := List.eq_append_cons_of_mem hmem
  use before, l, after, hsplit
  constructor
  · intro m hm
    have hm' : m ∈ Supply.ofKeys r.trust
        ({ c with licenses := c.licenses ++ [key] } : Configuration).keys := by
      rw [hsplit]
      apply List.mem_append_left _ hm
    obtain ⟨other, hother, hlicense⟩ := List.mem_filterMap.1 hm'
    have hofText : License.ofText r.trust other = .ok m := by
      cases h : License.ofText r.trust other with
      | error e =>
        rw [h] at hlicense
        cases hlicense
      | ok m' =>
        rw [h] at hlicense
        cases hlicense
        rfl
    cases hsame : l.same m with
    | false => rfl
    | true =>
      rcases (Configuration.mem_keys_append htrim hempty).1 hother with rfl | hold
      · rw [hl] at hofText
        cases hofText
        cases habsent hm
      · apply absurd (isActive_of_same hl hofText hsame hactive)
        apply List.find?_eq_none.1 hinactive other hold
  · apply hgranted

/-- The license of a new key allows what is asked, on each day of the evaluation. -/
theorem isGrantedBy_of_issue {r : Registrar} {now : Instant} {guid : Guid} {key : String}
    {trust : TrustPolicy} {q : Request} {today : Date} (h : r.issue now guid = .ok key)
    (hring : trust.ring.find? r.issuer.id = some r.issuer.publicKey)
    (haccepts : ∀ m, r.message now guid = .ok m → SignatureScheme.Accepts r.issuer.secret m)
    (hrequired : Features.all.contains q.features = true) (hfirst : now.day ≤ today)
    (hlast : today.day ≤ now.day.day + r.evaluationDays) :
  ∃ l, License.ofText trust key = .ok l ∧ q.isGrantedBy today l = true
  := by
  obtain ⟨validTo, l, hvalidTo, hl, hgrant⟩ := grant_of_issue h hring haccepts
  use l, hl
  rw [Request.isGrantedBy_iff]
  use (spec now validTo guid).grant, hgrant
  rw [Grant.allows_iff]
  use hrequired
  constructor
  · rintro _ ⟨⟩
  · constructor
    · rintro _ ⟨⟩
      apply hfirst
    · rintro _ ⟨⟩
      change today.day ≤ validTo.day
      rw [Date.ofDay?_eq_some_iff.1 hvalidTo]
      apply hlast

/-- What a registration has last written to the store when it has added a license. -/
theorem lastWrite?_of_registered {r : Registrar} {now : Instant} {guid : Guid} {f f' : Files}
    {key : String} {w : Write} (h : (r.register now guid).Ends f (.ok (.registered key)) f')
    (hlast : f'.lastWrite? .store = some w) :
  r.issue now guid = .ok key ∧ ∃ c, Configuration.ofContents? w.before = some c ∧
    r.findActive? now.day c = none ∧
    w.text = ({ c with licenses := c.licenses ++ [key] } : Configuration).text
  := by
  cases ends_register h with
  | @added c _ g _ admitted issued drift loaded inactive noted =>
    obtain ⟨ws, hwritten, hfilter⟩ := noted.written_added
    rw [Files.lastWrite?, hwritten, List.filter_append, hfilter, List.getLast?_concat] at hlast
    cases hlast
    use issued, c, loaded, inactive

/-- After a registration has added a license to the store of a registrar that trusts its
issuer, and as long as the store contains what was written there and can be read, all
features are granted everywhere from the day of the registration to the last day of the
evaluation. -/
theorem registered_granted {r : Registrar} {now : Instant} {guid : Guid} {f g : Files}
    {key : String} {w : Write} {required : Features} {today : Date}
    (hregistered : ((r.trustingIssuer.register now guid).run.run f).1 = .ok (.registered key))
    (hlast : ((r.trustingIssuer.register now guid).run.run f).2.lastWrite? .store = some w)
    (hkept : g.store = some w.text) (hleaves : g.Leaves .store)
    (hread : ∀ e, ((r.options.retryPolicy.run Configuration.load).run.run g).1 ≠ .error (.io e))
    (hdoubles : ∀ c, Configuration.ofContents? w.before = some c → c.RereadsDoubles)
    (haccepts : ∀ m, r.message now guid = .ok m → SignatureScheme.Accepts r.issuer.secret m)
    (hrequired : Features.all.contains required = true) (hfirst : now.day ≤ today)
    (hlastDay : today.day ≤ now.day.day + r.evaluationDays) (consumer : String) :
  ((⟨required, consumer⟩ : Request).decide today []
    [.ofStore r.trustingIssuer.trust r.options.retryPolicy g]).1.isGranted = true
  := by
  rcases hrun : (r.trustingIssuer.register now guid).run.run f with ⟨o, f'⟩
  rw [hrun] at hregistered hlast
  cases hregistered
  obtain ⟨hkey, c, hc, hinactive, htext⟩ := lastWrite?_of_registered hrun hlast
  have hc' : Configuration.ofContents? g.store =
      some { c with licenses := c.licenses ++ [key] } := by
    rw [hkept, htext]
    exact Configuration.ofText?_append_of_rereadsDoubles hc (hdoubles c hc) key
  have hissued : r.issue now guid = .ok key := hkey
  obtain ⟨l, hl, hgranted⟩ : ∃ l, License.ofText r.trustingIssuer.trust key = .ok l ∧
      (⟨required, consumer⟩ : Request).isGrantedBy today l = true :=
    isGrantedBy_of_issue hissued r.find?_trustingIssuer haccepts hrequired hfirst hlastDay
  obtain ⟨htrim, hempty⟩ := trim_of_issue hkey
  rw [Request.isGranted_iff_hasLeader, yields_store (Configuration.run_load hleaves hread hc')]
  apply hasLeader_of_added htrim hempty hinactive (isActive_of_issue hkey) hl hgranted

end Registrar

/-! ### An evaluation beside another license -/

/-- Files with a store that contains a key which cannot be read. -/
def sharedFiles : Files where
  store := some "\x7b\"licenses\":[\"2-AAA\"]\x7d"

theorem exists_ofContents?_shared :
  ∃ c, Configuration.ofContents? sharedFiles.store = some c ∧ c.RereadsDoubles ∧
    trialRegistrar.trustingIssuer.findActive? (trialVisit .keyEpoch).now.day c = none
  := by
  have hstore : (Configuration.ofContents? sharedFiles.store).map (fun c =>
      (c.other.isEmpty,
        trialRegistrar.trustingIssuer.findActive? (trialVisit .keyEpoch).now.day c)) =
      some (true, none) := by
    decide +kernel
  obtain ⟨c, hc, hfields⟩ := Option.map_eq_some_iff.1 hstore
  obtain ⟨hother, hinactive⟩ := Prod.mk.inj hfields
  use c, hc
  constructor
  · rw [Configuration.RereadsDoubles, List.isEmpty_iff.1 hother]
    rintro _ ⟨⟩
  · apply hinactive

/-- When nothing fails, a license is added to the store and noted in the record. -/
theorem exists_register_shared :
  ∃ key n text, (trialRegistrar.trustingIssuer.register (trialVisit .keyEpoch).now
      (trialVisit .keyEpoch).guid).Ends sharedFiles (.ok (.registered key))
    (({ sharedFiles with reads := n }.afterWrite .store text).afterWrite .record
      (EvaluationRecord.text ⟨some key⟩))
  := by
  obtain ⟨key, hkey⟩ := exists_issue_trial .keyEpoch List.mem_cons_self
  have hissued : trialRegistrar.trustingIssuer.issue (trialVisit .keyEpoch).now
      (trialVisit .keyEpoch).guid = .ok key := hkey
  obtain ⟨c, hc, -, hinactive⟩ := exists_ofContents?_shared
  have hcalm : sharedFiles.Calm := ⟨rfl, rfl⟩
  obtain ⟨n, hends⟩ :=
    Registrar.ends_register_of_calm hcalm rfl (by rintro _ ⟨⟩) hissued hc hinactive
  exact ⟨key, n, _, hends⟩

theorem accepts_trial {m : Bytes}
    (h : trialRegistrar.message (trialVisit .keyEpoch).now (trialVisit .keyEpoch).guid = .ok m) :
  SignatureScheme.Accepts licensor.secret m
  := by
  have haccepts : ((trialRegistrar.message (trialVisit .keyEpoch).now
      (trialVisit .keyEpoch).guid).map fun m =>
        decide (SignatureScheme.Accepts licensor.secret m)).toOption = some true := by
    decide +kernel
  rw [h] at haccepts
  apply of_decide_eq_true (Option.some.inj haccepts)

theorem Registrar.registered_granted_shared :
  ∃ key f', (trialRegistrar.trustingIssuer.register (trialVisit .keyEpoch).now
      (trialVisit .keyEpoch).guid).run.run sharedFiles = (.ok (.registered key), f') ∧
    ∀ consumer, ((⟨.debugger, consumer⟩ : Request).decide
      ⟨Date.keyEpoch.day + 45, by decide, by decide⟩ []
      [.ofStore trialRegistrar.trustingIssuer.trust trialRegistrar.options.retryPolicy
        { store := f'.store }]).1.isGranted = true
  := by
  obtain ⟨key, hkey⟩ := exists_issue_trial .keyEpoch List.mem_cons_self
  have hissued : trialRegistrar.trustingIssuer.issue (trialVisit .keyEpoch).now
      (trialVisit .keyEpoch).guid = .ok key := hkey
  obtain ⟨c, hc, hdoubles, hinactive⟩ := exists_ofContents?_shared
  have hcalm : sharedFiles.Calm := ⟨rfl, rfl⟩
  have hlock : trialRegistrar.trustingIssuer.lockUsable = true := rfl
  have hrecord : ∀ text, sharedFiles.record = some text →
      Eligibility.ofRecord trialRegistrar.trustingIssuer.trust
        trialRegistrar.trustingIssuer.cooldownDays (trialVisit .keyEpoch).now.day text =
          .eligible := by
    rintro _ ⟨⟩
  obtain ⟨n, hends⟩ := ends_register_of_calm hcalm hlock hrecord hissued hc hinactive
  have hreread := Configuration.ofText?_append_of_rereadsDoubles hc hdoubles key
  generalize ({ c with licenses := c.licenses ++ [key] } : Configuration).text = text
    at hends hreread
  have hlast : ((trialRegistrar.trustingIssuer.register (trialVisit .keyEpoch).now
      (trialVisit .keyEpoch).guid).run.run sharedFiles).2.lastWrite? .store =
        some ⟨.store, sharedFiles.store, text⟩ :=
    congrArg (fun x => x.2.lastWrite? .store) hends
  have hkept : Files.Calm { store := some text } := ⟨rfl, rfl⟩
  have hread : ∀ e, ((trialRegistrar.options.retryPolicy.run Configuration.load).run.run
      { store := some text }).1 ≠ .error (.io e) := by
    intro e
    rw [Configuration.run_load_of_calm hkept hreread]
    rintro ⟨⟩
  have hdoubles' : ∀ c, Configuration.ofContents? sharedFiles.store = some c →
      c.RereadsDoubles := by
    intro c' hc'
    rw [hc] at hc'
    cases hc'
    apply hdoubles
  refine ⟨key, _, hends, ?_⟩
  intro consumer
  apply registered_granted (congrArg Prod.fst hends) hlast rfl (hkept.leaves .store) hread
    hdoubles' fun m => accepts_trial
  · decide
  · decide
  · decide

end Entitlement
