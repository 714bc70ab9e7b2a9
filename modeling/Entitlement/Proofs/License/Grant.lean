import Entitlement.License.Basic
import Entitlement.Proofs.Key.Signed

/-!
# What stands behind a grant

A license that comes from a text grants something only when its key is signed by a trusted
key, over all octets in front of the signature, and when its payload permits what is granted
(`License.grant_eq_ok_iff`, `TrustPolicy.verifySignature_eq_ok_iff`,
`Payload.permits_iff`). A payload permits the same without its signature.
-/

namespace Entitlement

/-! ### Payloads -/

/-- What a payload has to say for features to be granted in a namespace on a day. -/
structure Payload.Permits (p : Payload) (trust : TrustPolicy) (required : Features)
    (consumer : String) (today : Date) : Prop where
  /-- The features that are listed, or else those of the kind of license, are enough. -/
  features : ∃ code kind, p.byte? .licenseType = some code ∧ 1 ≤ code ∧ code ≤ 7 ∧
    LicenseKind.ofCode? code = some kind ∧ (p.grantedFeatures kind).contains required = true
  notRevoked : ∀ id, p.int32? .licenseId = some id → trust.isRevoked id = false
  covered : ∀ n, p.string? .namespaceRestriction = some n →
    n = "" ∨ Namespace.covers n consumer = true
  begun : ∀ first, p.date? .validFrom = some first → first ≤ today
  notEnded : ∀ last, p.date? .validTo = some last → today ≤ last

theorem LicenseKind.code_bounds {code : UInt8} {kind : LicenseKind}
    (h : LicenseKind.ofCode? code = some kind) :
  1 ≤ code ∧ code ≤ 7
  := by
  obtain ⟨rfl, hunknown⟩ := LicenseKind.code_of_ofCode? h
  cases kind with
  | unknown => exact absurd rfl hunknown
  | _ => decide

namespace Payload

theorem kind_eq_ok_iff {p : Payload} {kind : LicenseKind} :
  p.kind = .ok kind ↔
    ∃ code, p.byte? .licenseType = some code ∧ LicenseKind.ofCode? code = some kind
  := by
  unfold Payload.kind
  cases p.byte? .licenseType with
  | none => simp
  | some code => cases hkind : LicenseKind.ofCode? code <;> simp [hkind]

theorem grant_eq_ok_iff {p : Payload} {trust : TrustPolicy} {g : Grant} :
  p.grant trust = .ok g ↔
    (∀ id, p.int32? .licenseId = some id → trust.isRevoked id = false) ∧
    ∃ kind, p.kind = .ok kind ∧
      g = ⟨p.int32? .licenseId, kind, p.grantedFeatures kind, p.namespaceRestriction?,
        p.date? .validFrom, p.date? .validTo⟩
  := by
  unfold Payload.grant
  dsimp only
  cases hrevoked : (p.int32? .licenseId).filter trust.isRevoked with
  | some id =>
    constructor
    · intro h
      cases h
    · rintro ⟨h, -, -⟩
      obtain ⟨hid, htrue⟩ := Option.filter_eq_some_iff.1 hrevoked
      rw [h id hid] at htrue
      cases htrue
  | none =>
    dsimp only
    rw [bind_ok_iff]
    constructor
    · rintro ⟨kind, hkind, h⟩
      cases h
      constructor
      · intro id hid
        rw [hid] at hrevoked
        simpa using hrevoked
      · use kind, hkind
    · rintro ⟨-, kind, hkind, rfl⟩
      use kind, hkind
      rfl

end Payload

theorem Grant.allows_iff {g : Grant} {required : Features} {consumer : String} {today : Date} :
  g.allows required consumer today = true ↔
    g.features.contains required = true ∧
    (∀ n, g.namespaceRestriction = some n → Namespace.covers n consumer = true) ∧
    (∀ first, g.validFrom = some first → first ≤ today) ∧
    (∀ last, g.validTo = some last → today ≤ last)
  := by
  simp [Grant.allows, Grant.allowsNamespace, Grant.isValidOn, Date.isWithin,
    Option.all_eq_true, and_assoc]

namespace Payload

theorem namespaceRestriction?_eq_some_iff {p : Payload} {n : String} :
  p.namespaceRestriction? = some n ↔ p.string? .namespaceRestriction = some n ∧ n ≠ ""
  := by
  rw [namespaceRestriction?, Option.filter_eq_some_iff, decide_eq_true_iff]

/-- A payload permits exactly what its grant allows. -/
theorem permits_iff {p : Payload} {trust : TrustPolicy} {required : Features}
    {consumer : String} {today : Date} :
  p.Permits trust required consumer today ↔
    ∃ g, p.grant trust = .ok g ∧ g.allows required consumer today = true
  := by
  constructor
  · rintro ⟨⟨code, kind, hcode, -, -, hkind, hfeatures⟩, hrevoked, hcovered, hbegun, hended⟩
    have hgrant := grant_eq_ok_iff.2
      ⟨hrevoked, kind, kind_eq_ok_iff.2 ⟨code, hcode, hkind⟩, rfl⟩
    refine ⟨_, hgrant, Grant.allows_iff.2 ⟨hfeatures, ?_, hbegun, hended⟩⟩
    intro n hn
    obtain ⟨hn, hempty⟩ := namespaceRestriction?_eq_some_iff.1 hn
    apply (hcovered n hn).resolve_left hempty
  · rintro ⟨g, hg, hallows⟩
    obtain ⟨hrevoked, kind, hkind, rfl⟩ := grant_eq_ok_iff.1 hg
    obtain ⟨code, hcode, hofCode⟩ := kind_eq_ok_iff.1 hkind
    obtain ⟨hfeatures, hcovered, hbegun, hended⟩ := Grant.allows_iff.1 hallows
    obtain ⟨hfirst, hlast⟩ := LicenseKind.code_bounds hofCode
    constructor
    · use code, kind
    · apply hrevoked
    · intro n hn
      by_cases hempty : n = ""
      · left
        apply hempty
      · right
        apply hcovered n (namespaceRestriction?_eq_some_iff.2 ⟨hn, hempty⟩)
    · apply hbegun
    · apply hended

theorem byte?_remove {p : Payload} {i j : FieldIndex} (h : j ≠ i) :
  (p.remove i).byte? j = p.byte? j
  := by
  rw [byte?, byte?, get?_remove, if_neg h]

/-- The signature has no part in what a payload grants. -/
theorem grant_remove_signature (p : Payload) (trust : TrustPolicy) :
  (p.remove .signature).grant trust = p.grant trust
  := by
  have hget (i : FieldIndex) (hi : i ≠ .signature) :
      (p.remove .signature).get? i = p.get? i := by
    rw [get?_remove, if_neg hi]
  have hkind : (p.remove .signature).kind = p.kind := by
    rw [Payload.kind, Payload.kind, byte?_remove (by decide)]
  have hfeatures (kind : LicenseKind) :
      (p.remove .signature).grantedFeatures kind = p.grantedFeatures kind := by
    rw [grantedFeatures, grantedFeatures, int64?, int64?, hget .features (by decide)]
  unfold Payload.grant namespaceRestriction? int32? string? date?
  rw [hkind, hget .licenseId (by decide), hget .namespaceRestriction (by decide),
    hget .validFrom (by decide), hget .validTo (by decide)]
  simp only [hfeatures]

end Payload

/-! ### Signatures -/

namespace TrustPolicy

theorem signer_eq_ok_iff {k : DecodedKey} {id : UInt8} :
  signer k = .ok id ↔
    (k.version = .v2 → k.payload.byte? .signatureKeyId = some id) ∧
    (k.version = .v1 → id = KeyRing.productionId)
  := by
  unfold signer
  cases k.version with
  | v1 => simp [KeyVersion.namesSigner, eq_comm]
  | v2 =>
    rw [KeyVersion.namesSigner, if_pos rfl]
    cases k.payload.byte? .signatureKeyId with
    | none => simp
    | some i => simp

variable [SignatureScheme]

theorem verify_eq_ok_iff {t : TrustPolicy} {id : UInt8} {message signature : Bytes} :
  t.verify id message signature = .ok () ↔
    ∃ key, t.ring.find? id = some key ∧ SignatureScheme.isPublicKey key = true ∧
      signature.length = SignatureScheme.signatureLength ∧
      SignatureScheme.verify key message signature = true
  := by
  unfold verify
  cases t.ring.find? id with
  | none => simp
  | some key =>
    cases hkey : SignatureScheme.isPublicKey key <;> simp [hkey]

theorem verifySignature_eq_ok_iff {t : TrustPolicy} {k : DecodedKey} :
  t.verifySignature k = .ok () ↔
    ∃ signature id message, k.payload.byteBuffer? .signature = some signature ∧
      signer k = .ok id ∧ k.signedBytes? = some message ∧
      t.verify id message signature = .ok ()
  := by
  unfold verifySignature
  cases k.payload.byteBuffer? .signature with
  | none => simp
  | some signature =>
    dsimp only
    rw [bind_ok_iff]
    cases k.signedBytes? with
    | none => simp
    | some message => simp

end TrustPolicy

/-! ### Licenses -/

theorem LicenseError.ofKey_eq_ok_iff {α : Type} {x : Except KeyError α} {a : α} :
  LicenseError.ofKey x = .ok a ↔ x = .ok a
  := by
  cases x with
  | error e =>
    constructor
    · rintro ⟨⟩
    · rintro ⟨⟩
  | ok b =>
    change Except.ok b = _ ↔ _
    rw [Except.ok.injEq, Except.ok.injEq]

theorem License.grant_eq_ok_iff [SignatureScheme] {l : License} {g : Grant} :
  l.grant = .ok g ↔
    ∃ k, l.decoded = .ok k ∧ (l.origin = .keyText → l.trust.verifySignature k = .ok ()) ∧
      k.payload.grant l.trust = .ok g
  := by
  unfold License.grant
  rw [bind_ok_iff]
  constructor
  · rintro ⟨k, hk, h⟩
    use k, LicenseError.ofKey_eq_ok_iff.1 hk
    split at h
    · obtain ⟨u, hverify, hgrant⟩ := bind_ok_iff.1 h
      use fun _ => hverify, hgrant
    · rename_i horigin
      use fun h => absurd h horigin
  · rintro ⟨k, hk, hverify, hgrant⟩
    use k, LicenseError.ofKey_eq_ok_iff.2 hk
    split
    · rename_i horigin
      apply bind_ok_iff.2
      use (), hverify horigin, hgrant
    · apply hgrant

theorem License.ofText_eq_ok {trust : TrustPolicy} {text : String} {l : License}
    (h : License.ofText trust text = .ok l) :
  l.key = Text.trim text ∧ l.decoded = DecodedKey.ofText l.key ∧ l.trust = trust ∧
    l.origin = .keyText
  := by
  unfold License.ofText at h
  dsimp only at h
  split at h
  · cases h
  · split at h
    · cases h
    · cases h
      -- The projections have to go before the texts are compared, lest they be evaluated.
      dsimp only
      exact ⟨rfl, rfl, rfl, rfl⟩

end Entitlement
