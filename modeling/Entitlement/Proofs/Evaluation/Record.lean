import Entitlement.Evaluation.Eligibility
import Entitlement.Proofs.Json.Value
import Entitlement.Proofs.License.Grant

/-!
# What a record allows

The text of a record is read as the record (`EvaluationRecord.ofText?_text`). A record either
names an evaluation license with a last day (`EvaluationRecord.EndsOn`) or has a fault that
blocks all evaluations (`EvaluationRecord.HasFault`). In the former case the last day decides
together with the waiting time after it, and a new evaluation may start on a day exactly when
both have passed (`Eligibility.ofRecord_eq_eligible_iff`).
-/

namespace Entitlement

namespace EvaluationRecord

/-- The value of the field of a record. -/
def value (r : EvaluationRecord) : Json := r.licenseKey.elim .null .string

theorem shaped_value (r : EvaluationRecord) :
  r.value.Shaped 0
  := by
  rcases r with ⟨_ | key⟩
  · trivial
  · trivial

theorem not_mentions_value (r : EvaluationRecord) (x : Json.Number) :
  ¬ r.value.Mentions x
  := by
  rcases r with ⟨_ | key⟩
  · rintro ⟨⟩
  · rintro ⟨⟩

theorem reread_value (r : EvaluationRecord) :
  r.value.reread = r.value
  := by
  rcases r with ⟨_ | key⟩
  · rfl
  · rfl

theorem fieldMember_append (r : EvaluationRecord) {rest : List Char}
    (hrest : Json.Numeral.Ends rest) :
  Json.fieldMember ["licenseKey"]
      (Json.memberText .indented 1 ("licenseKey", r.value) ++ rest) =
    some (("licenseKey", some r.value), rest)
  := by
  have hnumbers (x : Json.Number) (hx : r.value.Mentions x) : x.IsReadable :=
    absurd hx (r.not_mentions_value x)
  have hread : Json.inner (r.value.write .indented 1 ++ rest) = some (r.value.reread, rest) :=
    Json.value_write_leaf r.shaped_value hnumbers .indented 1 (Json.maxDepth - 1) hrest
  have hopens : Json.Opens ']' (r.value.write .indented 1 ++ rest) := by
    obtain ⟨c, cs, hcs, hc⟩ := Json.opens_write hnumbers .indented 1
    rw [hcs]
    use c, cs ++ rest, rfl
  rw [Json.memberText, List.append_assoc, List.append_assoc]
  apply Json.member_append hopens
  change (Json.inner (r.value.write .indented 1 ++ rest)).map _ = _
  rw [hread, r.reread_value]
  rfl

theorem ofText?_text (r : EvaluationRecord) :
  ofText? r.text = some r
  := by
  have hmember : ∀ b ∈ [("licenseKey", some r.value)], ∀ rest, Json.Numeral.Ends rest →
      Json.fieldMember ["licenseKey"]
        (Json.memberText .indented 1 ("licenseKey", r.value) ++ rest) = some (b, rest) := by
    intro b hb rest hrest
    rw [List.mem_singleton.1 hb]
    apply r.fieldMember_append hrest
  have hitems := Json.items_cons [] hmember
    (fun _ _ => Json.opens_memberText .indented 1 ("licenseKey", r.value)) (by decide)
    (Json.Layout.isBlank_lineBreak .indented 1) (Json.Layout.isBlank_lineBreak .indented 0)
  have htext := Json.write_object_cons .indented 0 ("licenseKey", r.value) [] []
  rw [List.append_nil] at htext
  have hfields : Json.document? (Json.fields ["licenseKey"] 1) r.text =
      some [("licenseKey", r.value)] := by
    have htext' : r.text.toList = _ := (String.toList_ofList).trans htext
    apply Json.document?_of_read htext' (by decide)
    change (Json.items (Json.fieldMember ["licenseKey"]) '\x7d' _ >>= _) = _
    rw [Json.moreText] at hitems ⊢
    rw [hitems]
    rfl
  rw [ofText?, hfields]
  rcases r with ⟨_ | key⟩
  · rfl
  · rfl

end EvaluationRecord

/-! ### What describes a license -/

/-- The kind that describes a license is the one its payload is for, unless there is none. -/
theorem Payload.registration_kind_iff {p : Payload} {key : String} {kind : LicenseKind}
    (hkind : kind ≠ .unknown) :
  (p.registration key).kind = kind ↔ p.kind = .ok kind
  := by
  change p.kind.toOption.getD .unknown = kind ↔ _
  cases p.kind with
  | error e =>
    constructor
    · intro h
      exact absurd h.symm hkind
    · rintro ⟨⟩
  | ok kind' =>
    constructor
    · intro h
      exact congrArg Except.ok h
    · intro h
      exact Except.ok.inj h

/-- A key with a description is that of a license that can be read. -/
theorem Eligibility.registrationOf_eq_ok_iff {trust : TrustPolicy} {key : String}
    {d : Registration} :
  registrationOf trust key = .ok d ↔
    ∃ l k, License.ofText trust key = .ok l ∧ l.decoded = .ok k ∧
      k.payload.registration l.key = d
  := by
  rw [registrationOf, bind_ok_iff]
  constructor
  · rintro ⟨l, hl, hregistration⟩
    obtain ⟨k, hk, hd⟩ := bind_ok_iff.1 hregistration
    use l, k, hl, LicenseError.ofKey_eq_ok_iff.1 hk, Except.ok.inj hd
  · rintro ⟨l, k, hl, hk, rfl⟩
    use l, hl
    apply bind_ok_iff.2
    use k, LicenseError.ofKey_eq_ok_iff.2 hk
    rfl

/-! ### Records with and without faults -/

namespace EvaluationRecord

/-- The text is that of a record with a key of an evaluation license which is valid up to the
day. -/
def EndsOn (trust : TrustPolicy) (text : String) (validTo : Date) : Prop :=
  ∃ key l k, ofText? text = some ⟨some key⟩ ∧ License.ofText trust key = .ok l ∧
    l.decoded = .ok k ∧ k.payload.kind = .ok .evaluation ∧
    k.payload.date? .validTo = some validTo

/-- What is wrong with a text that is not that of a record with a key of an evaluation license
which has a last day. -/
inductive HasFault (trust : TrustPolicy) (text : String) : RecordFault → Prop where
  | malformed (unread : ofText? text = none) : HasFault trust text .malformed
  | withoutLicense (read : ofText? text = some ⟨none⟩) : HasFault trust text .withoutLicense
  | blank {key : String} (read : ofText? text = some ⟨some key⟩) (blank : Text.trim key = "") :
    HasFault trust text .invalidLicense
  | address {key : String} (read : ofText? text = some ⟨some key⟩)
    (address : Url.isWebAddress (Text.trim key) = true) : HasFault trust text .invalidLicense
  | undecoded {key : String} {e : KeyError} (read : ofText? text = some ⟨some key⟩)
    (undecoded : DecodedKey.ofText (Text.trim key) = .error e) :
    HasFault trust text .invalidLicense
  | otherKind {key : String} {l : License} {k : DecodedKey}
    (read : ofText? text = some ⟨some key⟩) (license : License.ofText trust key = .ok l)
    (decoded : l.decoded = .ok k) (other : k.payload.kind ≠ .ok .evaluation) :
    HasFault trust text .otherKind
  | undated {key : String} {l : License} {k : DecodedKey}
    (read : ofText? text = some ⟨some key⟩) (license : License.ofText trust key = .ok l)
    (decoded : l.decoded = .ok k) (kind : k.payload.kind = .ok .evaluation)
    (undated : k.payload.date? .validTo = none) : HasFault trust text .undated

variable {trust : TrustPolicy} {text : String}

theorem endsOn_iff {validTo : Date} :
  EndsOn trust text validTo ↔
    ∃ key d, ofText? text = some ⟨some key⟩ ∧ Eligibility.registrationOf trust key = .ok d ∧
      d.kind = .evaluation ∧ d.validTo = some validTo
  := by
  constructor
  · rintro ⟨key, l, k, hkey, hl, hk, hkind, hvalidTo⟩
    use key, k.payload.registration l.key, hkey
    use Eligibility.registrationOf_eq_ok_iff.2 ⟨l, k, hl, hk, rfl⟩
    use (Payload.registration_kind_iff (by decide)).2 hkind, hvalidTo
  · rintro ⟨key, d, hkey, hd, hkind, hvalidTo⟩
    obtain ⟨l, k, hl, hk, rfl⟩ := Eligibility.registrationOf_eq_ok_iff.1 hd
    use key, l, k, hkey, hl, hk
    use (Payload.registration_kind_iff (by decide)).1 hkind, hvalidTo

/-- The text of a record with a key ends when the license of the key does. -/
theorem endsOn_text_iff {key : String} {validTo : Date} :
  EndsOn trust (EvaluationRecord.text ⟨some key⟩) validTo ↔
    ∃ d, Eligibility.registrationOf trust key = .ok d ∧ d.kind = .evaluation ∧
      d.validTo = some validTo
  := by
  rw [endsOn_iff]
  constructor
  · rintro ⟨key', d, hkey, hd⟩
    rw [ofText?_text] at hkey
    cases hkey
    use d
  · rintro ⟨d, hd⟩
    use key, d, ofText?_text _

theorem EndsOn.unique {validTo validTo' : Date} (h : EndsOn trust text validTo)
    (h' : EndsOn trust text validTo') :
  validTo = validTo'
  := by
  obtain ⟨key, d, hkey, hd, -, hvalidTo⟩ := endsOn_iff.1 h
  obtain ⟨key', d', hkey', hd', -, hvalidTo'⟩ := endsOn_iff.1 h'
  cases hkey.symm.trans hkey'
  cases hd.symm.trans hd'
  cases hvalidTo.symm.trans hvalidTo'
  rfl

/-- Every text is that of a record with a key of an evaluation license which has a last day, or
there is something wrong with it. -/
theorem endsOn_or_hasFault (trust : TrustPolicy) (text : String) :
  (∃ validTo, EndsOn trust text validTo) ∨ ∃ fault, HasFault trust text fault
  := by
  rcases hread : ofText? text with _ | ⟨_ | key⟩
  · right
    use .malformed, .malformed hread
  · right
    use .withoutLicense, .withoutLicense hread
  · by_cases hblank : Text.trim key = ""
    · right
      use .invalidLicense, .blank hread hblank
    · by_cases haddress : Url.isWebAddress (Text.trim key) = true
      · right
        use .invalidLicense, .address hread haddress
      · cases hdecoded : DecodedKey.ofText (Text.trim key) with
        | error e =>
          right
          use .invalidLicense, .undecoded hread hdecoded
        | ok k =>
          obtain ⟨l, hl, hk⟩ : ∃ l, License.ofText trust key = .ok l ∧ l.decoded = .ok k := by
            rw [License.ofText, if_neg hblank, if_neg haddress, hdecoded]
            exact ⟨_, rfl, rfl⟩
          by_cases hkind : k.payload.kind = .ok .evaluation
          · cases hvalidTo : k.payload.date? .validTo with
            | none =>
              right
              use .undated, .undated hread hl hk hkind hvalidTo
            | some validTo =>
              left
              use validTo, key, l, k
          · right
            use .otherKind, .otherKind hread hl hk hkind

end EvaluationRecord

namespace Eligibility

open EvaluationRecord

variable {trust : TrustPolicy} {text : String} {cooldown : Nat} {today validTo : Date}

theorem ofRecord_of_endsOn (h : EndsOn trust text validTo) (cooldown : Nat) (today : Date) :
  ofRecord trust cooldown today text = ofValidTo cooldown today validTo
  := by
  obtain ⟨key, d, hkey, hd, hkind, hvalidTo⟩ := endsOn_iff.1 h
  rw [ofRecord, hkey]
  dsimp only
  rw [hd]
  dsimp only
  rw [ofRegistration, if_neg (not_not.2 hkind), hvalidTo]

/-- A record with a key that has no description blocks all evaluations. -/
theorem ofRecord_of_invalid {key : String} (hkey : ofText? text = some ⟨some key⟩)
    (hnone : ∀ d, registrationOf trust key ≠ .ok d) (cooldown : Nat) (today : Date) :
  ofRecord trust cooldown today text = .blocked .invalidLicense
  := by
  rw [ofRecord, hkey]
  dsimp only
  cases hd : registrationOf trust key with
  | error e => rfl
  | ok d => exact absurd hd (hnone d)

theorem ofRecord_of_hasFault {fault : RecordFault} (h : HasFault trust text fault)
    (cooldown : Nat) (today : Date) :
  ofRecord trust cooldown today text = .blocked fault
  := by
  cases h with
  | malformed hread | withoutLicense hread => rw [ofRecord, hread]
  | blank hread hblank =>
    apply ofRecord_of_invalid hread
    intro d hd
    obtain ⟨l, k, hl, -⟩ := registrationOf_eq_ok_iff.1 hd
    rw [License.ofText, if_pos hblank] at hl
    cases hl
  | @address key hread haddress =>
    apply ofRecord_of_invalid hread
    intro d hd
    obtain ⟨l, k, hl, -⟩ := registrationOf_eq_ok_iff.1 hd
    rw [License.ofText, if_pos haddress] at hl
    split at hl
    · cases hl
    · cases hl
  | undecoded hread hundecoded =>
    apply ofRecord_of_invalid hread
    intro d hd
    obtain ⟨l, k, hl, hk, -⟩ := registrationOf_eq_ok_iff.1 hd
    obtain ⟨hkey, hdecoded, -⟩ := License.ofText_eq_ok hl
    rw [hkey, hundecoded, hk] at hdecoded
    cases hdecoded
  | @otherKind key l k hread hl hk hother =>
    rw [ofRecord, hread]
    dsimp only
    rw [registrationOf_eq_ok_iff.2 ⟨l, k, hl, hk, rfl⟩]
    dsimp only
    rw [ofRegistration, if_pos (mt (Payload.registration_kind_iff (by decide)).1 hother)]
  | @undated key l k hread hl hk hkind hundated =>
    have hvalidTo : (k.payload.registration l.key).validTo = none := hundated
    rw [ofRecord, hread]
    dsimp only
    rw [registrationOf_eq_ok_iff.2 ⟨l, k, hl, hk, rfl⟩]
    dsimp only
    rw [ofRegistration, if_neg (not_not.2 ((Payload.registration_kind_iff (by decide)).2 hkind)),
      hvalidTo]

/-! ### Days -/

theorem ofValidTo_of_le (h : today ≤ validTo) :
  ofValidTo cooldown today validTo = .withinEvaluation validTo
  := by
  rw [ofValidTo, if_pos h]

/-- The waiting time ends no earlier than the evaluation. -/
theorem le_of_addDays? {after : Date} (h : validTo.addDays? cooldown = some after) :
  validTo ≤ after
  := by
  have hday := Date.ofDay?_eq_some_iff.1 h
  change validTo.day ≤ after.day
  omega

theorem ofValidTo_eq_withinEvaluation_iff {last : Date} :
  ofValidTo cooldown today validTo = .withinEvaluation last ↔ last = validTo ∧ today ≤ validTo
  := by
  unfold ofValidTo
  grind

theorem ofValidTo_eq_withinCooldown_iff {after : Date} :
  ofValidTo cooldown today validTo = .withinCooldown after ↔
    validTo.addDays? cooldown = some after ∧ validTo < today ∧ today ≤ after
  := by
  rw [← Date.not_le]
  unfold ofValidTo
  grind

theorem ofValidTo_eq_eligible_iff :
  ofValidTo cooldown today validTo = .eligible ↔
    ∃ after, validTo.addDays? cooldown = some after ∧ after < today
  := by
  simp only [← Date.not_le]
  unfold ofValidTo
  split
  · rename_i hle
    constructor
    · rintro ⟨⟩
    · rintro ⟨after, hafter, hlater⟩
      exact absurd (Int.le_trans hle (le_of_addDays? hafter)) hlater
  · grind

theorem ofValidTo_eq_blocked_iff {fault : RecordFault} :
  ofValidTo cooldown today validTo = .blocked fault ↔
    fault = .beyondCalendar ∧ validTo.addDays? cooldown = none ∧ validTo < today
  := by
  rw [← Date.not_le]
  unfold ofValidTo
  grind

/-! ### New evaluations -/

/-- There is something wrong with a text exactly when it is not that of a record with a key of
an evaluation license which has a last day. -/
theorem not_endsOn_iff :
  (¬ ∃ validTo, EndsOn trust text validTo) ↔ ∃ fault, HasFault trust text fault
  := by
  constructor
  · apply (endsOn_or_hasFault trust text).resolve_left
  · rintro ⟨fault, hfault⟩ ⟨validTo, hends⟩
    -- On the last day the record would both say that an evaluation is running and block it.
    have hblocked := ofRecord_of_hasFault hfault 0 validTo
    rw [ofRecord_of_endsOn hends, ofValidTo_of_le (Int.le_refl validTo.day)] at hblocked
    cases hblocked

/-- A record allows a new evaluation on a day exactly when it names an evaluation license and
the waiting time behind its last day is over. -/
theorem ofRecord_eq_eligible_iff :
  ofRecord trust cooldown today text = .eligible ↔
    ∃ validTo after, EndsOn trust text validTo ∧ validTo.addDays? cooldown = some after ∧
      after < today
  := by
  rcases endsOn_or_hasFault trust text with ⟨validTo, hends⟩ | ⟨fault, hfault⟩
  · rw [ofRecord_of_endsOn hends, ofValidTo_eq_eligible_iff]
    constructor
    · rintro ⟨after, hafter, hlater⟩
      use validTo, after
    · rintro ⟨validTo', after, hends', hafter, hlater⟩
      cases hends.unique hends'
      use after
  · rw [ofRecord_of_hasFault hfault]
    constructor
    · rintro ⟨⟩
    · rintro ⟨validTo, _, hends, -⟩
      exact absurd ⟨validTo, hends⟩ (not_endsOn_iff.2 ⟨fault, hfault⟩)

end Eligibility

end Entitlement
