import Entitlement.Proofs.License.Issued

/-!
# Issuing again

What an issuer makes of a payload depends neither on a signature that is there already nor on
the number of another signer, and not on what a key does not keep. So the payload of a key
that has been issued, issued again by the same issuer in the same version, gives that key
again; and the octets that were signed are those that are cut out of the key to check its
signature (`Issuer.issue_fixed`).
-/

namespace Entitlement

/-! ### What a key keeps of a payload -/

theorem writeRecords_kept (fs : List (FieldIndex × FieldValue)) :
  writeRecords (fs.map fun f => (f.1, f.2.kept)) = writeRecords fs
  := by
  induction fs with
  | nil => rfl
  | cons f fs ih => rw [List.map_cons, writeRecords, writeRecords, ih, FieldIndex.record_kept]

namespace Payload

theorem writeRecords_filter_kept (p : Payload) (keep : FieldIndex → Bool) :
  writeRecords (p.kept.fields.filter fun f => keep f.1) =
    writeRecords (p.fields.filter fun f => keep f.1)
  := by
  rw [kept, List.filter_map]
  apply writeRecords_kept

theorem signable_kept (p : Payload) :
  p.kept.signable = p.signable
  := p.writeRecords_filter_kept fun i => i ≠ .signature

theorem encode_kept (p : Payload) :
  p.kept.encode = p.encode
  := by
  rw [encode, encode, signable_kept, p.writeRecords_filter_kept fun i => i = .signature]

theorem keyText_kept (p : Payload) (v : KeyVersion) :
  p.kept.keyText v = p.keyText v
  := by
  rw [keyText, keyText, encode_kept]

theorem kept_signed (p : Payload) (signature : Bytes) :
  p.kept.signed signature = (p.signed signature).kept
  := by
  apply ext_get?
  intro i
  rw [get?_signed, get?_kept, get?_kept, get?_signed]
  split <;> rfl

end Payload

/-! ### Payloads before they are signed -/

theorem FieldIndex.type?_signatureKeyId (id : UInt8) :
  FieldIndex.signatureKeyId.type? = some (FieldValue.byte id).type
  := rfl

namespace Issuer

/-- The payload with the number of the issuer, in version 2, and without a signature. -/
def unsigned (s : Issuer) : KeyVersion → Payload → Payload
  | .v1, p => (p.remove .signature).remove .signatureKeyId
  | .v2, p => (p.remove .signature).insert .signatureKeyId (.byte s.id)
    (FieldIndex.type?_signatureKeyId s.id)

/-- What a key of the version says of its signer. -/
def signerValue? (s : Issuer) : KeyVersion → Option FieldValue
  | .v1 => none
  | .v2 => some (.byte s.id)

variable (s : Issuer) (v : KeyVersion)

theorem signablePayload_eq (p : Payload) :
  s.signablePayload v p = .ok (s.unsigned v p)
  := by
  cases v <;> rfl

theorem get?_unsigned (p : Payload) (i : FieldIndex) :
  (s.unsigned v p).get? i =
    if i = .signatureKeyId then s.signerValue? v
    else if i = .signature then none else p.get? i
  := by
  cases v with
  | v1 => rw [unsigned, Payload.get?_remove, Payload.get?_remove, signerValue?]
  | v2 => rw [unsigned, Payload.get?_insert, Payload.get?_remove, signerValue?]

theorem unsigned_congr {p q : Payload}
    (h : ∀ i, i ≠ .signature → i ≠ .signatureKeyId → q.get? i = p.get? i) :
  s.unsigned v q = s.unsigned v p
  := by
  apply Payload.ext_get?
  intro i
  rw [get?_unsigned, get?_unsigned]
  split
  · rfl
  · split
    · rfl
    · rename_i hid hsig
      apply h i hsig hid

theorem unsigned_kept (p : Payload) :
  s.unsigned v p.kept = (s.unsigned v p).kept
  := by
  apply Payload.ext_get?
  intro i
  rw [get?_unsigned, Payload.get?_kept, Payload.get?_kept, get?_unsigned]
  split
  · cases v <;> rfl
  · split <;> rfl

/-! ### Keys that are issued -/

variable [SignatureScheme]

theorem issue_eq (p : Payload) :
  s.issue v p = (LicenseError.ofKey (s.unsigned v p).signable >>= fun m =>
    LicenseError.ofKey (((s.unsigned v p).signed (SignatureScheme.sign s.secret m)).keyText v))
  := by
  rw [issue, signablePayload_eq]
  rfl

/-- The signature and the signer that a payload names have no part in what is issued for it. -/
theorem issue_congr {p q : Payload}
    (h : ∀ i, i ≠ .signature → i ≠ .signatureKeyId → q.get? i = p.get? i) :
  s.issue v q = s.issue v p
  := by
  rw [issue_eq, issue_eq, s.unsigned_congr v h]

/-- What a key does not keep of a payload has no part in what is issued for it. -/
theorem issue_kept (p : Payload) :
  s.issue v p.kept = s.issue v p
  := by
  rw [issue_eq, issue_eq, unsigned_kept, Payload.signable_kept]
  simp only [Payload.kept_signed, Payload.keyText_kept]

/-- A key that has been issued is read with the fields of the payload, except that it names the
issuer in version 2, and no signer in version 1, and has a signature. What the issuer signed
are the records of the payload that is read, and they are cut out of the key to check the
signature, which is accepted wherever the issuer is trusted. The key is the same for every
payload with the same other fields, and the payload that is read is one of those for which it
is issued. -/
theorem issue_fixed {s : Issuer} {v : KeyVersion} {p : Payload} {k : String}
    (h : s.issue v p = .ok k)
    (hreader : ∀ n, p.int16? .minRequiredReaderVersion = some n → n ≤ 2) :
  ∃ d m, DecodedKey.ofText k = .ok d ∧ d.version = v ∧
    (∀ i, i ≠ .signature → i ≠ .signatureKeyId →
      d.payload.get? i = (p.get? i).map (·.kept)) ∧
    d.payload.get? .signatureKeyId = s.signerValue? v ∧
    s.message v p = .ok m ∧ d.payload.signable = .ok m ∧ d.signedBytes? = some m ∧
    (SignatureScheme.Accepts s.secret m → ∀ trust : TrustPolicy,
      trust.ring.find? (s.number v) = some s.publicKey → trust.verifySignature d = .ok ()) ∧
    (∀ q : Payload, (∀ i, i ≠ .signature → i ≠ .signatureKeyId → q.get? i = p.get? i) →
      s.issue v q = .ok k) ∧
    s.issue v d.payload = .ok k
  := by
  obtain ⟨d, m, hd, hissued⟩ := ofText_issue h hreader
  obtain ⟨q, m', hq, -, hm, hk⟩ := issue_eq_ok h
  obtain rfl : s.unsigned v p = q := Except.ok.inj ((s.signablePayload_eq v p).symm.trans hq)
  have hunsigned : (s.unsigned v p).get? .signature = none := by
    rw [get?_unsigned]
    rfl
  -- What is read is what a key keeps of the payload that has been signed.
  obtain ⟨d', m'', hd', -, hpayload, hm'', hbytes⟩ := Payload.ofText_signed hk hunsigned <| by
    intro n hn
    apply hreader n
    rw [Payload.int16?, get?_unsigned, if_neg (by decide), if_neg (by decide)] at hn
    apply hn
  obtain rfl : d = d' := Except.ok.inj (hd.symm.trans hd')
  obtain rfl : m = m'' := Option.some.inj (hissued.signedBytes.symm.trans hbytes)
  obtain rfl : m' = m := Except.ok.inj (hm.symm.trans hm'')
  have hothers (r : Payload)
      (hr : ∀ i, i ≠ .signature → i ≠ .signatureKeyId → r.get? i = p.get? i) :
      s.issue v r = .ok k := by
    rw [s.issue_congr v hr, h]
  use d, m', hd, hissued.version, hissued.fields
  constructor
  · rw [hpayload, Payload.get?_kept, Payload.get?_signed, if_neg (by decide), get?_unsigned,
      if_pos rfl]
    cases v <;> rfl
  · use hissued.message
    constructor
    · rw [hpayload, Payload.signable_kept, Payload.signable_signed _ hunsigned, hm]
    · use hbytes, fun haccepts trust hring => hissued.verifySignature hring haccepts, hothers
      rw [hpayload, issue_kept]
      apply hothers
      intro i hsig hid
      rw [Payload.get?_signed, if_neg hsig, get?_unsigned, if_neg hid, if_neg hsig]

end Issuer

/-! ### A payload with the signature of another -/

/-- The policy that trusts the issuer under its own number. -/
def licensorRing : TrustPolicy := .ofRing (KeyRing.empty.insert 7 licensor.publicKey)

/-- A signature is replaced, an instant loses what is below the millisecond, and issuing again
changes nothing. -/
theorem Issuer.issue_fixed_signedPayload :
  ∃ k d, licensor.issue .v2 DecodedKey.signedPayload = .ok k ∧ DecodedKey.ofText k = .ok d ∧
    d.payload.get? .signatureKeyId = some (.byte 7) ∧ licensorRing.verifySignature d = .ok () ∧
    licensor.issue .v2 (DecodedKey.signedPayload.remove .signature) = .ok k ∧
    licensor.issue .v2 d.payload = .ok k
  := by
  have hrun : (do
      let k ← licensor.issue .v2 DecodedKey.signedPayload
      let m ← licensor.message .v2 DecodedKey.signedPayload
      return (k, decide (SignatureScheme.Accepts licensor.secret m))).toOption.map
        (fun r : String × Bool => r.2) = some true := by
    decide +kernel
  obtain ⟨⟨_, accepted⟩, hsome, haccepted⟩ := Option.map_eq_some_iff.1 hrun
  obtain ⟨k, hk, h₁⟩ := bind_ok_iff.1 (eq_ok_of_toOption hsome)
  obtain ⟨m, hm, h₂⟩ := bind_ok_iff.1 h₁
  obtain rfl : accepted = true := haccepted
  obtain ⟨rfl, haccepts⟩ := Prod.mk.inj (Except.ok.inj h₂)
  have hreader : ∀ n, DecodedKey.signedPayload.int16? .minRequiredReaderVersion = some n →
      n ≤ 2 := by
    intro n hn
    have hnone : DecodedKey.signedPayload.int16? .minRequiredReaderVersion = none := by decide
    rw [hnone] at hn
    cases hn
  obtain ⟨d, m', hd, -, -, hsigner, hm', -, -, hverify, hothers, hagain⟩ := issue_fixed hk hreader
  obtain rfl : m = m' := Except.ok.inj (hm.symm.trans hm')
  use k, d, hk, hd, hsigner, hverify (of_decide_eq_true haccepts) licensorRing rfl
  constructor
  · apply hothers
    intro i hi _
    rw [Payload.get?_remove, if_neg hi]
  · apply hagain

end Entitlement
