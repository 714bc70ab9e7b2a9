import Entitlement.Proofs.Evaluation.Registration
import Entitlement.Proofs.Key.Writable
import Entitlement.Proofs.License.Reissued

/-!
# Days on which an evaluation can begin

An issuer makes a key of a payload exactly if the fields of the payload can be written
(`Issuer.exists_issue_iff`). Of what a key says of a new evaluation only the first and the last
day may be such that they cannot be written, so a license can be issued exactly on the days on
which a key can name both (`Registrar.exists_issue_iff`).
-/

namespace Entitlement

/-! ### Payloads -/

namespace Payload

theorem exists_keyText_iff {p : Payload} {v : KeyVersion} :
  (∃ k, p.keyText v = .ok k) ↔ p.Writable
  := by
  rw [← exists_encode_iff]
  constructor
  · rintro ⟨k, hk⟩
    obtain ⟨bs, hbs, -⟩ := bind_ok_iff.1 hk
    use bs
  · rintro ⟨bs, hbs⟩
    exact ⟨_, bind_ok_iff.2 ⟨bs, hbs, rfl⟩⟩

/-- A signature of the right length can be written. -/
theorem writable_signed_iff {p : Payload} {signature : Bytes}
    (h : signature.length = SignatureScheme.signatureLength) :
  (p.signed signature).Writable ↔
    ∀ i w, i ≠ .signature → p.get? i = some w → ∀ e, ¬ w.Fault i e
  := by
  rw [writable_iff]
  constructor
  · intro hwritable i w hi hw
    apply hwritable
    rw [get?_signed, if_neg hi, hw]
  · intro hfields i w hw
    rw [get?_signed] at hw
    split at hw
    · rename_i hi
      cases hw
      rw [hi]
      apply FieldValue.forall_not_fault_byteBuffer_iff.2
      rw [h]
      decide
    · rename_i hi
      apply hfields i w hi hw

end Payload

namespace Issuer

/-- The fields that an issuer signs can be written if those of the payload can that it does not
set itself. -/
theorem forall_not_fault_unsigned_iff {s : Issuer} {v : KeyVersion} {p : Payload} :
  (∀ i w, i ≠ .signature → (s.unsigned v p).get? i = some w → ∀ e, ¬ w.Fault i e) ↔
    ∀ i w, i ≠ .signature → i ≠ .signatureKeyId → p.get? i = some w → ∀ e, ¬ w.Fault i e
  := by
  constructor
  · intro h i w hsig hid hw
    apply h i w hsig
    rw [get?_unsigned, if_neg hid, if_neg hsig, hw]
  · intro h i w hsig hw
    by_cases hid : i = .signatureKeyId
    · rw [get?_unsigned, if_pos hid] at hw
      cases v with
      | v1 => cases hw
      | v2 =>
        cases hw
        rintro e ⟨⟩
    · rw [get?_unsigned, if_neg hid, if_neg hsig] at hw
      apply h i w hsig hid hw

/-- An issuer makes a key of a payload exactly if no field but those that it sets itself has a
fault. -/
theorem exists_issue_iff [SignatureScheme] {s : Issuer} {v : KeyVersion} {p : Payload}
    (hsign : ∀ m, (SignatureScheme.sign s.secret m).length = SignatureScheme.signatureLength) :
  (∃ k, s.issue v p = .ok k) ↔
    ∀ i w, i ≠ .signature → i ≠ .signatureKeyId → p.get? i = some w → ∀ e, ¬ w.Fault i e
  := by
  rw [← forall_not_fault_unsigned_iff (s := s) (v := v), issue_eq]
  constructor
  · rintro ⟨k, hk⟩
    obtain ⟨m, -, hkey⟩ := bind_ok_iff.1 hk
    apply (Payload.writable_signed_iff (hsign m)).1
    apply Payload.exists_keyText_iff.1
    exact ⟨k, LicenseError.ofKey_eq_ok_iff.1 hkey⟩
  · intro h
    have hunsigned : (s.unsigned v p).get? .signature = none := by
      rw [get?_unsigned]
      rfl
    have hwritable (m : Bytes) :
        ((s.unsigned v p).signed (SignatureScheme.sign s.secret m)).Writable :=
      (Payload.writable_signed_iff (hsign m)).2 h
    -- What is to be signed does not depend on the signature, so any will do to see that it can
    -- be written.
    obtain ⟨bs, hbs⟩ := Payload.exists_encode_iff.2 (hwritable [])
    obtain ⟨m, -, hm, -⟩ := Payload.exists_signable_of_encode hbs
    rw [Payload.signable_signed _ hunsigned] at hm
    obtain ⟨k, hk⟩ := Payload.exists_keyText_iff.2 (hwritable m)
    use k
    apply bind_ok_iff.2
    use m, LicenseError.ofKey_eq_ok_iff.2 hm, LicenseError.ofKey_eq_ok_iff.2 hk

end Issuer

/-! ### New evaluations -/

namespace Registrar

/-- License keys can name the first and the last day of an evaluation that begins on the day. -/
def CanBegin (r : Registrar) (today : Date) : Prop :=
  Date.keyEpoch ≤ today ∧ today.day + r.evaluationDays ≤ Date.keyLast.day

instance (r : Registrar) (today : Date) : Decidable (r.CanBegin today) :=
  inferInstanceAs (Decidable (_ ∧ _))

theorem canBegin_congr {r r' : Registrar} (h : r.options = r'.options) :
  r.CanBegin = r'.CanBegin
  := by
  funext today
  rw [CanBegin, CanBegin, evaluationDays, evaluationDays, h]

theorem fields_spec (now : Instant) (validTo : Date) (guid : Guid) :
  (spec now validTo guid).fields =
    [(.licenseType, .byte LicenseKind.evaluation.code), (.licenseGuid, .guid guid),
      (.validFrom, .date now.day), (.validTo, .date validTo),
      (.description, .string "Evaluation License"), (.features, .int64 Features.all.bits.toInt64),
      (.issuedAt, .dateTime now)]
  := rfl

/-- The fields of a new license can be written if its days can. -/
theorem forall_not_fault_spec_iff {now : Instant} {validTo : Date} {guid : Guid} {p : Payload}
    (h : (spec now validTo guid).payload = .ok p) :
  (∀ i w, i ≠ .signature → i ≠ .signatureKeyId → p.get? i = some w → ∀ e, ¬ w.Fault i e) ↔
    (Date.keyEpoch ≤ now.day ∧ now.day ≤ Date.keyLast) ∧
      Date.keyEpoch ≤ validTo ∧ validTo ≤ Date.keyLast
  := by
  constructor
  · intro hfields
    constructor
    · apply FieldValue.forall_not_fault_date_iff.1 (hfields .validFrom _ (by decide) (by decide) _)
      rw [LicenseSpec.get?_payload h]
      rfl
    · apply FieldValue.forall_not_fault_date_iff.1 (hfields .validTo _ (by decide) (by decide) _)
      rw [LicenseSpec.get?_payload h]
      rfl
  · rintro ⟨hfirst, hlast⟩ i w - - hw
    rw [LicenseSpec.get?_payload h] at hw
    have hmem := List.mem_reverse.1 (Sorted.mem_of_find? hw)
    rw [fields_spec] at hmem
    simp only [List.mem_cons, Prod.mk.injEq, List.not_mem_nil, or_false] at hmem
    obtain ⟨rfl, rfl⟩ | ⟨rfl, rfl⟩ | ⟨rfl, rfl⟩ | ⟨rfl, rfl⟩ | ⟨rfl, rfl⟩ | ⟨rfl, rfl⟩ |
      ⟨rfl, rfl⟩ := hmem
    · rintro e ⟨⟩
    · rintro e ⟨⟩
    · apply FieldValue.forall_not_fault_date_iff.2 hfirst
    · apply FieldValue.forall_not_fault_date_iff.2 hlast
    · apply FieldValue.forall_not_fault_string_iff.2
      decide
    · rintro e ⟨⟩
    · rintro e ⟨⟩

variable [SignatureScheme] {r : Registrar} {now : Instant} {guid : Guid}

/-- A license can be issued on the days on which an evaluation can begin, and on no others. -/
theorem exists_issue_iff (hsign : ∀ m, (SignatureScheme.sign r.issuer.secret m).length =
    SignatureScheme.signatureLength) :
  (∃ key, r.issue now guid = .ok key) ↔ r.CanBegin now.day
  := by
  constructor
  · rintro ⟨key, hkey⟩
    obtain ⟨validTo, p, hvalidTo, hp, hissued⟩ := issue_eq_ok_iff.1 hkey
    obtain ⟨⟨hfirst, -⟩, -, hlast⟩ := (forall_not_fault_spec_iff hp).1 <|
      (Issuer.exists_issue_iff hsign).1 ⟨key, hissued⟩
    use hfirst
    rw [← Date.ofDay?_eq_some_iff.1 hvalidTo]
    apply hlast
  · rintro ⟨hfirst, hlast⟩
    have hlater : now.day.day ≤ now.day.day + r.evaluationDays := by
      omega
    let validTo : Date := ⟨now.day.day + r.evaluationDays,
      Int.le_trans now.day.first_le hlater, Int.le_trans hlast (by decide)⟩
    obtain ⟨p, hp⟩ : ∃ p, (spec now validTo guid).payload = .ok p := ⟨_, rfl⟩
    obtain ⟨key, hkey⟩ := (Issuer.exists_issue_iff hsign).2 <| (forall_not_fault_spec_iff hp).2
      ⟨⟨hfirst, Int.le_trans hlater hlast⟩, Int.le_trans hfirst hlater, hlast⟩
    use key
    apply issue_eq_ok_iff.2
    exact ⟨validTo, p, Date.ofDay?_eq_some_iff.2 rfl, hp, hkey⟩

end Registrar

end Entitlement
