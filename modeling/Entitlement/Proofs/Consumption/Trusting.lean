import Entitlement.Evaluation.Registrar
import Entitlement.Proofs.Consumption.Revocation

/-!
# Trusting one more key

A key text names the number of the key that has signed it (`License.NamesSigner`). When a
policy trusts a key under a number, texts that name another number, or none, allow what they
allowed before. A text that names the number is now checked against the new key, so it allows
the same only if the new key accepts its signature too; this is so whenever the ring has no
other key under the number (`License.grantOf_insertKey`). In this case no request that was
granted is denied (`Request.isGranted_of_trusting`).
-/

namespace Entitlement

/-! ### Signatures -/

namespace TrustPolicy

variable [SignatureScheme] {t : TrustPolicy} {id : UInt8} {key : Bytes}

theorem verify_insertKey_of_ne {i : UInt8} (h : i ≠ id) (message signature : Bytes) :
  (t.insertKey id key).verify i message signature = t.verify i message signature
  := by
  rw [verify, verify, find?_insertKey, if_neg h]

theorem verify_insertKey_self (message signature : Bytes) :
  (t.insertKey id key).verify id message signature =
    if !SignatureScheme.isPublicKey key then .error (.invalidPublicKey id)
    else if signature.length = SignatureScheme.signatureLength
        && SignatureScheme.verify key message signature then .ok ()
    else .error .invalidSignature
  := by
  rw [verify, find?_insertKey, if_pos rfl]

/-- What names another signer, or none, is judged as before. -/
theorem verifySignature_insertKey_of_ne {k : DecodedKey} (h : signer k ≠ .ok id) :
  (t.insertKey id key).verifySignature k = t.verifySignature k
  := by
  unfold verifySignature
  cases k.payload.byteBuffer? .signature with
  | none => rfl
  | some signature =>
    cases hsigner : signer k with
    | error e => rfl
    | ok i =>
      have hi : i ≠ id := by
        rintro rfl
        apply h hsigner
      cases k.signedBytes? with
      | none => rfl
      | some message => apply verify_insertKey_of_ne hi

end TrustPolicy

/-! ### Licenses -/

namespace License

/-- The license comes from outside and names the number of its signer; in version 1 this is
the number for production. -/
def NamesSigner (l : License) (id : UInt8) : Prop :=
  l.origin = .keyText ∧ ∃ k, l.decoded = .ok k ∧ TrustPolicy.signer k = .ok id

/-- The license under a policy that trusts one more key. -/
def trusting (l : License) (id : UInt8) (key : Bytes) : License := l.mapTrust (·.insertKey id key)

variable {l : License} {trust : TrustPolicy} {id : UInt8} {key : Bytes} {text : String}

theorem ofText_insertKey :
  ofText (trust.insertKey id key) text = (ofText trust text).map (·.trusting id key)
  := ofText_mapTrust (·.insertKey id key) trust text

section

variable [SignatureScheme]

/-- What does not name the number allows what it allowed, or fails as it failed. -/
theorem grant_trusting_of_not_namesSigner (h : ¬ l.NamesSigner id) :
  (l.trusting id key).grant = l.grant
  := by
  rcases l with ⟨text, decoded, trust, origin⟩
  cases decoded with
  | error e => rfl
  | ok k =>
    cases origin with
    | inProcess => rfl
    | keyText =>
      have hsigner : TrustPolicy.signer k ≠ .ok id := by
        intro hsigner
        apply h ⟨rfl, k, rfl, hsigner⟩
      change ((trust.insertKey id key).verifySignature k >>= fun _ => k.payload.grant trust) =
        (trust.verifySignature k >>= fun _ => k.payload.grant trust)
      rw [TrustPolicy.verifySignature_insertKey_of_ne hsigner]

/-- What names the number, and has allowed something, is judged by the new key alone. -/
theorem grant_trusting_of_namesSigner {g : Grant} (h : l.NamesSigner id) (hg : l.grant = .ok g)
    (key : Bytes) :
  ∃ k m sig, l.decoded = .ok k ∧ k.signedBytes? = some m ∧
    k.payload.byteBuffer? .signature = some sig ∧
    (∃ old, l.trust.ring.find? id = some old ∧ SignatureScheme.isPublicKey old = true ∧
      SignatureScheme.verify old m sig = true) ∧
    (l.trusting id key).grant =
      if SignatureScheme.isPublicKey key = false then .error (.invalidPublicKey id)
      else if SignatureScheme.verify key m sig = true then .ok g
      else .error .invalidSignature
  := by
  obtain ⟨horigin, k, hk, hsigner⟩ := h
  obtain ⟨k', hk', hverified, hpayload⟩ := grant_eq_ok_iff.1 hg
  cases hk.symm.trans hk'
  obtain ⟨sig, id', m, hsig, hsigner', hsigned, hverify⟩ :=
    TrustPolicy.verifySignature_eq_ok_iff.1 (hverified horigin)
  cases hsigner.symm.trans hsigner'
  obtain ⟨old, hfind, hpublic, hlength, haccepted⟩ := TrustPolicy.verify_eq_ok_iff.1 hverify
  use k, m, sig, hk, hsigned, hsig, ⟨old, hfind, hpublic, haccepted⟩
  rcases l with ⟨text, decoded, trust, origin⟩
  cases hk
  cases horigin
  have hjudged : (trust.insertKey id key).verifySignature k =
      (trust.insertKey id key).verify id m sig := by
    unfold TrustPolicy.verifySignature
    rw [hsig, hsigner, hsigned]
    rfl
  change ((trust.insertKey id key).verifySignature k >>= fun _ => k.payload.grant trust) = _
  rw [hjudged, TrustPolicy.verify_insertKey_self, hlength, hpayload]
  cases SignatureScheme.isPublicKey key with
  | false => rfl
  | true => cases SignatureScheme.verify key m sig <;> rfl

/-- As long as the ring has no other key under the number, what has allowed something still
allows it. -/
theorem grant_trusting_of_unbound {g : Grant} (hg : l.grant = .ok g)
    (hunbound : ∀ old, l.trust.ring.find? id = some old → old = key) :
  (l.trusting id key).grant = .ok g
  := by
  by_cases h : l.NamesSigner id
  · obtain ⟨k, m, sig, -, -, -, ⟨old, hfind, hpublic, haccepted⟩, hgrant⟩ :=
      grant_trusting_of_namesSigner h hg key
    cases hunbound old hfind
    rw [hgrant, hpublic, haccepted]
    rfl
  · rw [grant_trusting_of_not_namesSigner h, hg]

/-! ### Texts -/

/-- What a text allows under a policy. -/
def grantOf (trust : TrustPolicy) (text : String) : Except LicenseError Grant :=
  ofText trust text >>= grant

theorem grantOf_eq_ok_iff {g : Grant} :
  grantOf trust text = .ok g ↔ ∃ l, ofText trust text = .ok l ∧ l.grant = .ok g
  := bind_ok_iff

theorem grantOf_insertKey_of_ofText (h : ofText trust text = .ok l) :
  grantOf (trust.insertKey id key) text = (l.trusting id key).grant
  := by
  rw [grantOf, ofText_insertKey, h]
  rfl

theorem grantOf_insertKey_of_ne
    (h : ∀ k, DecodedKey.ofText (Text.trim text) = .ok k → TrustPolicy.signer k ≠ .ok id) :
  grantOf (trust.insertKey id key) text = grantOf trust text
  := by
  cases hl : ofText trust text with
  | error e =>
    rw [grantOf, grantOf, ofText_insertKey, hl]
    rfl
  | ok l =>
    have hnames : ¬ l.NamesSigner id := by
      rintro ⟨-, k, hk, hsigner⟩
      obtain ⟨hkey, hdecoded, -⟩ := ofText_eq_ok hl
      rw [hdecoded, hkey] at hk
      apply h k hk hsigner
    rw [grantOf_insertKey_of_ofText hl, grant_trusting_of_not_namesSigner hnames, grantOf, hl]
    rfl

theorem grantOf_insertKey_of_unbound {g : Grant} (hg : grantOf trust text = .ok g)
    (hunbound : ∀ old, trust.ring.find? id = some old → old = key) :
  grantOf (trust.insertKey id key) text = .ok g
  := by
  obtain ⟨l, hl, hgrant⟩ := grantOf_eq_ok_iff.1 hg
  obtain ⟨-, -, rfl, -⟩ := ofText_eq_ok hl
  rw [grantOf_insertKey_of_ofText hl]
  apply grant_trusting_of_unbound hgrant hunbound

theorem grantOf_insertKey_of_signer {g : Grant} {k : DecodedKey}
    (hg : grantOf trust text = .ok g) (hk : DecodedKey.ofText (Text.trim text) = .ok k)
    (hsigner : TrustPolicy.signer k = .ok id) :
  ∃ m sig, k.signedBytes? = some m ∧ k.payload.byteBuffer? .signature = some sig ∧
    grantOf (trust.insertKey id key) text =
      if SignatureScheme.isPublicKey key = false then .error (.invalidPublicKey id)
      else if SignatureScheme.verify key m sig = true then .ok g
      else .error .invalidSignature
  := by
  obtain ⟨l, hl, hgrant⟩ := grantOf_eq_ok_iff.1 hg
  obtain ⟨hkey, hdecoded, -, horigin⟩ := ofText_eq_ok hl
  rw [← hkey, ← hdecoded] at hk
  obtain ⟨k', m, sig, hk', hsigned, hsig, -, hjudged⟩ :=
    grant_trusting_of_namesSigner ⟨horigin, k, hk, hsigner⟩ hgrant key
  cases hk.symm.trans hk'
  use m, sig, hsigned, hsig
  rw [grantOf_insertKey_of_ofText hl, hjudged]

/-- When a key is trusted under a number, texts stand for the same licenses, and those that
name another number, or none, allow what they allowed, or fail as they failed. What a text has
allowed it still allows if the ring has no other key under the number; and if the text names
the number, exactly if the new key accepts its signature. A registrar that trusts its issuer
trusts one more key. -/
theorem grantOf_insertKey (trust : TrustPolicy) (id : UInt8) (key : Bytes) (text : String) :
  ofText (trust.insertKey id key) text = (ofText trust text).map (·.trusting id key) ∧
  ((∀ k, DecodedKey.ofText (Text.trim text) = .ok k → TrustPolicy.signer k ≠ .ok id) →
    grantOf (trust.insertKey id key) text = grantOf trust text) ∧
  (∀ g, grantOf trust text = .ok g →
    ((∀ old, trust.ring.find? id = some old → old = key) →
      grantOf (trust.insertKey id key) text = .ok g) ∧
    ∀ k, DecodedKey.ofText (Text.trim text) = .ok k → TrustPolicy.signer k = .ok id →
      ∃ m sig, k.signedBytes? = some m ∧ k.payload.byteBuffer? .signature = some sig ∧
        grantOf (trust.insertKey id key) text =
          if SignatureScheme.isPublicKey key = false then .error (.invalidPublicKey id)
          else if SignatureScheme.verify key m sig = true then .ok g
          else .error .invalidSignature) ∧
  ∀ r : Registrar, r.trustingIssuer.trust = r.trust.insertKey r.issuer.id r.issuer.publicKey
  := by
  use ofText_insertKey, grantOf_insertKey_of_ne
  constructor
  · intro g hg
    constructor
    · apply grantOf_insertKey_of_unbound hg
    · intro k
      apply grantOf_insertKey_of_signer hg
  · intro r
    rfl

end

/-! ### One issuer's number for another -/

/-- A registrar whose issuer has the number of a key that its policy trusts. -/
def renumberedRegistrar : Registrar where
  trust := Request.issuerTrust
  issuer := ⟨1, List.replicate 32 7⟩
  options := .inFolder "renumbered"

/-- The issuer of the policy has signed the key. -/
theorem exists_grantOf_issued :
  ∃ g, grantOf Request.issuerTrust ("2-" ++ Request.enterpriseSymbols) = .ok g
  := by
  have hgranted : (grantOf Request.issuerTrust
      ("2-" ++ Request.enterpriseSymbols)).toOption.isSome = true := by
    decide +kernel
  obtain ⟨g, hg⟩ := Option.isSome_iff_exists.1 hgranted
  exact ⟨g, eq_ok_of_toOption hg⟩

/-- The key of the first issuer grants before the registrar trusts its own issuer, and not
after. -/
theorem grantOf_trustingIssuer_renumbered :
  (∃ g, grantOf renumberedRegistrar.trust ("2-" ++ Request.enterpriseSymbols) = .ok g) ∧
  grantOf renumberedRegistrar.trustingIssuer.trust ("2-" ++ Request.enterpriseSymbols) =
    .error .invalidSignature
  := by
  constructor
  · exact exists_grantOf_issued
  · decide +kernel

/-- Under another number, or once more under its own, a key can be trusted without loss. -/
theorem grantOf_insertKey_issued :
  ∃ g, grantOf Request.issuerTrust ("2-" ++ Request.enterpriseSymbols) = .ok g ∧
    grantOf (Request.issuerTrust.insertKey 2 KeyRing.productionKey)
      ("2-" ++ Request.enterpriseSymbols) = .ok g ∧
    grantOf (Request.issuerTrust.insertKey 1 Request.issuerKey)
      ("2-" ++ Request.enterpriseSymbols) = .ok g
  := by
  obtain ⟨g, hg⟩ := exists_grantOf_issued
  have hsigner : (DecodedKey.ofText (Text.trim ("2-" ++ Request.enterpriseSymbols))).toOption.map
      (fun k => (TrustPolicy.signer k).toOption) = some (some 1) := by
    decide +kernel
  obtain ⟨-, hother, -⟩ := grantOf_insertKey Request.issuerTrust 2 KeyRing.productionKey
    ("2-" ++ Request.enterpriseSymbols)
  obtain ⟨-, -, hown, -⟩ := grantOf_insertKey Request.issuerTrust 1 Request.issuerKey
    ("2-" ++ Request.enterpriseSymbols)
  use g, hg
  constructor
  · rw [hother, hg]
    intro k hk
    rw [hk] at hsigner
    intro htwo
    rw [Except.toOption, Option.map_some, htwo] at hsigner
    cases Option.some.inj hsigner
  · apply (hown g hg).1
    rintro old ⟨⟩
    rfl

end License

/-! ### Requests -/

namespace Request

variable [SignatureScheme] (r : Request) (today : Date)

/-- A license that has the first place among those that are the same, and grants the request,
still does when one more key is trusted. -/
theorem HasLeader.trusting {ls : List License} {id : UInt8} {key : Bytes}
    (h : r.HasLeader today ls)
    (hunbound : ∀ l ∈ ls, ∀ old, l.trust.ring.find? id = some old → old = key) :
  r.HasLeader today (ls.map (·.trusting id key))
  := by
  obtain ⟨before, l, after, rfl, hbefore, hgranted⟩ := h
  use before.map (·.trusting id key), l.trusting id key, after.map (·.trusting id key)
  rw [List.map_append, List.map_cons]
  use rfl
  constructor
  · intro m hm
    obtain ⟨n, hn, rfl⟩ := List.mem_map.1 hm
    apply hbefore n hn
  · obtain ⟨g, hgrant, hallows⟩ := (r.isGrantedBy_iff today).1 hgranted
    rw [r.isGrantedBy_iff today]
    use g
    constructor
    · apply License.grant_trusting_of_unbound hgrant
      apply hunbound l
      apply List.mem_append_right before List.mem_cons_self
    · apply hallows

/-- As long as no ring has another key under the number, a request that was granted is granted
when the sources trust one more key. -/
theorem isGranted_of_trusting {sources : List Source} {id : UInt8} {key : Bytes}
    (h : (r.decide today [] sources).1.isGranted = true)
    (hunbound : ∀ l ∈ (yields sources).flatten, ∀ old,
      l.trust.ring.find? id = some old → old = key) :
  (r.decide today [] (sources.map (·.mapTrust (·.insertKey id key)))).1.isGranted = true
  := by
  rw [r.isGranted_iff_hasLeader today] at h ⊢
  rw [yields_mapTrust]
  exact h.trusting r today hunbound

end Request

end Entitlement
