import Entitlement.Crypto.Ed25519
import Entitlement.Proofs.Consumption.Order
import Entitlement.Proofs.License.Grant

/-!
# No grant without a signature

When all sources hold keys from outside, a request is granted only by a key that one of them
holds and whose octets end in a signature of everything in front of it, by a key that is
trusted; and what is in front of the signature, read alone, permits what is asked
(`Request.granted_signed`). So nothing behind the signed octets has a part in what is
granted.
-/

namespace Entitlement

/-! ### Keys from outside -/

namespace Supply

/-- The policy under which keys from outside are believed. -/
def trust? : Supply → Option TrustPolicy
  | keys trust _ => some trust
  | store trust _ _ => some trust
  | unattended .. | given _ => none

/-- The licenses of a supply with keys from outside are those that the keys stand for. -/
theorem licenses_of_trust? {s : Supply} {trust : TrustPolicy} (h : s.trust? = some trust) :
  s.licenses.1 = ofKeys trust s.texts
  := by
  cases s with
  | keys trust' ks =>
    cases h
    rfl
  | store trust' retry files =>
    cases h
    rfl
  | unattended trust' enabled => cases h
  | given ls => cases h

theorem mem_ofKeys {trust : TrustPolicy} {keys : List String} {l : License}
    (h : l ∈ ofKeys trust keys) :
  ∃ text ∈ keys, l.key = Text.trim text ∧ l.decoded = DecodedKey.ofText l.key ∧
    l.trust = trust ∧ l.origin = .keyText
  := by
  obtain ⟨text, htext, hl⟩ := List.mem_filterMap.1 h
  use text, htext
  apply License.ofText_eq_ok
  cases hlicense : License.ofText trust text with
  | error e =>
    rw [hlicense] at hl
    cases hl
  | ok l' =>
    rw [hlicense] at hl
    cases hl
    rfl

end Supply

namespace Request

section

variable [SignatureScheme] (r : Request) (today : Date)

theorem isGrantedBy_iff {l : License} :
  r.isGrantedBy today l = true ↔
    ∃ g, l.grant = .ok g ∧ g.allows r.features r.consumer today = true
  := by
  unfold isGrantedBy
  cases l.grant <;> simp

/-- The key that a granted request names is that of a license by which it is granted. -/
theorem exists_of_grantedBy {sources : List Source} {key : String}
    (h : (r.decide today [] sources).1.grantedBy = some key) :
  ∃ s ∈ sources, ∃ l ∈ s.supply.licenses.1, l.key = key ∧ r.isGrantedBy today l = true
  := by
  rw [grantedBy_decide] at h
  obtain ⟨l, hfind, hkey⟩ := Option.map_eq_some_iff.1 h
  obtain ⟨before, after, hls, -⟩ := (mem_candidates sources).1 (List.mem_of_find?_eq_some hfind)
  have hl : l ∈ (yields sources).flatten := by
    rw [hls]
    apply List.mem_append_right before List.mem_cons_self
  obtain ⟨ls, hls, hmem⟩ := List.mem_flatten.1 hl
  obtain ⟨s, hs, rfl⟩ := List.mem_map.1 hls
  use s, hs, l, hmem, hkey
  apply List.find?_some hfind

/-- A request that is granted by keys from outside is granted by one of them: it is the text
of a source without the blank characters around it, and its octets are those that are signed,
the signature, and the end mark. The signature is one of the signed octets under the key of
the ring that they name in version 2, or that for production in version 1, and a payload of
the signed octets alone permits what is asked. -/
theorem granted_signed {sources : List Source} {key : String}
    (hsources : ∀ s ∈ sources, s.supply.trust?.isSome = true)
    (h : (r.decide today [] sources).1.grantedBy = some key) :
  ∃ s ∈ sources, ∃ trust, s.supply.trust? = some trust ∧
    ∃ text ∈ s.supply.texts, key = Text.trim text ∧
    ∃ (front body : List Char) (version : KeyVersion) (m sig : Bytes),
      KeyText.split? key.toList = some (front, body) ∧
      KeyVersion.ofChars front = .ok version ∧
      Symbols.decode body = .ok (m ++ [16, 64] ++ sig ++ [255]) ∧ sig.length = 64 ∧
    ∃ d, Payload.decode (m ++ [255]) = .ok d ∧
      (∃ (id : UInt8) (pk : Bytes), (version = .v2 → d.payload.byte? .signatureKeyId = some id) ∧
        (version = .v1 → id = 0) ∧ trust.ring.find? id = some pk ∧
        SignatureScheme.isPublicKey pk = true ∧ SignatureScheme.verify pk m sig = true) ∧
      d.payload.Permits trust r.features r.consumer today
  := by
  obtain ⟨s, hs, l, hl, rfl, hgranted⟩ := r.exists_of_grantedBy today h
  obtain ⟨trust, htrust⟩ := Option.isSome_iff_exists.1 (hsources s hs)
  rw [Supply.licenses_of_trust? htrust] at hl
  obtain ⟨text, htext, hkey, hread, rfl, horigin⟩ := Supply.mem_ofKeys hl
  obtain ⟨g, hgrant, hallows⟩ := (r.isGrantedBy_iff today).1 hgranted
  obtain ⟨k, hk, hverified, hpayload⟩ := License.grant_eq_ok_iff.1 hgrant
  obtain ⟨sig, id, m, hsig, hsigner, hsigned, hverify⟩ :=
    TrustPolicy.verifySignature_eq_ok_iff.1 (hverified horigin)
  obtain ⟨pk, hpk, hvalid, hlength, haccepted⟩ := TrustPolicy.verify_eq_ok_iff.1 hverify
  rw [hread] at hk
  obtain ⟨front, body, hsplit, hversion, hbody, hdecode, -⟩ := DecodedKey.ofText_eq_ok hk
  obtain ⟨sig', hget, hoctets, hsignedDecode⟩ := DecodedKey.layout_of_signedBytes? hdecode hsigned
  have hsame : sig' = sig := by
    rw [Payload.byteBuffer?, hget] at hsig
    apply Option.some.inj hsig
  subst hsame
  obtain ⟨hv2, hv1⟩ := TrustPolicy.signer_eq_ok_iff.1 hsigner
  use s, hs, l.trust, htrust, text, htext, hkey, front, body, k.version, m, sig', hsplit, hversion
  constructor
  · rw [hbody, hoctets, hlength]
    simp only [List.append_assoc]
    rfl
  · use hlength, ⟨k.payload.remove .signature, none, false⟩, hsignedDecode
    constructor
    · use id, pk
      constructor
      · intro hv
        rw [Payload.byte?_remove (by decide)]
        apply hv2 hv
      · use hv1, hpk, hvalid, haccepted
    · apply Payload.permits_iff.2
      use g
      rw [Payload.grant_remove_signature]
      use hpayload, hallows

end

/-! ### A key that an issuer has signed -/

/-- The public key of an issuer. -/
def issuerKey : Bytes :=
  [121, 181, 86, 46, 143, 230, 84, 249, 64, 120, 177, 18, 232, 169, 139, 167,
    144, 31, 133, 58, 230, 149, 190, 215, 224, 227, 145, 11, 173, 4, 150, 100]

/-- The policy that trusts the issuer, as number 1. -/
def issuerTrust : TrustPolicy := .ofRing (KeyRing.empty.insert 1 issuerKey)

/-- The symbols of an enterprise license that the issuer has signed. -/
def enterpriseSymbols : String :=
  "2A3JY2AJA44NNH79N3LVLSCDWH7XH4UEVQAQSLUXU2BPUXX35ZZGHAYMTBBNTXAXCFAKGRX9HHH4QLQ5VV9AF9DCTDAAT5RQMX3VW545PKPXYRJ9ZW"

/-- The key as it was issued. -/
def issuedSources : List Source :=
  [.ofKeys issuerTrust ["2-" ++ enterpriseSymbols]]

theorem granted_signed_issued :
  ((⟨.core, "Acme"⟩ : Request).decide .keyEpoch [] issuedSources).1.grantedBy =
    some ("2-" ++ enterpriseSymbols) ∧
  ∃ (m sig : Bytes) (d : Decoded) (id : UInt8) (pk : Bytes), sig.length = 64 ∧
    Payload.decode (m ++ [255]) = .ok d ∧ issuerTrust.ring.find? id = some pk ∧
    SignatureScheme.verify pk m sig = true ∧ d.payload.Permits issuerTrust .core "Acme" .keyEpoch
  := by
  have hsources : ∀ s ∈ issuedSources, s.supply.trust?.isSome = true := by
    intro s hs
    cases List.mem_singleton.1 hs
    rfl
  have hgranted : ((⟨.core, "Acme"⟩ : Request).decide .keyEpoch [] issuedSources).1.grantedBy =
      some ("2-" ++ enterpriseSymbols) := by
    decide +kernel
  use hgranted
  obtain ⟨s, hs, trust, htrust, -, -, -, -, -, -, m, sig, -, -, -, hlength, d, hd,
    ⟨id, pk, -, -, hpk, -, hverify⟩, hpermits⟩ := granted_signed _ _ hsources hgranted
  cases List.mem_singleton.1 hs
  cases htrust
  exact ⟨m, sig, d, id, pk, hlength, hd, hpk, hverify, hpermits⟩

end Request

end Entitlement
