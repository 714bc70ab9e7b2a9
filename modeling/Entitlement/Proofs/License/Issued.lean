import Entitlement.Crypto.Ed25519
import Entitlement.License.Builder
import Entitlement.Proofs.Key.RoundTrip
import Entitlement.Proofs.Key.Signed
import Entitlement.Proofs.License.Grant
import Entitlement.Trust.Issuer
import Mathlib.Data.Bool.AllAny
import Mathlib.Data.List.DropRight

/-!
# Licenses that have been issued

An issuer signs the fields of a description and writes them as a license key. The key is
read back with these fields, the number of the issuer and the signature
(`Issuer.ofText_issue`), its signature is accepted by every policy that trusts the issuer
(`Issuer.verifySignature_of_issue`), and so the license grants and tells what was described
(`LicenseSpec.issued_license`).
-/

namespace Entitlement

/-! ### Descriptions -/

namespace Payload

theorem get?_setAll {p q : Payload} {fs : List (FieldIndex × FieldValue)}
    (h : p.setAll fs = .ok q) (i : FieldIndex) :
  q.get? i = (Sorted.find? i fs.reverse).or (p.get? i)
  := by
  induction fs generalizing p with
  | nil =>
    cases h
    rfl
  | cons f fs ih =>
    obtain ⟨p', hset, hrest⟩ := bind_ok_iff.1 h
    rw [Payload.set] at hset
    split at hset
    · cases hset
      rw [ih hrest, get?_insert, List.reverse_cons, Sorted.find?_append, Option.or_assoc]
      congr 1
      rw [Sorted.find?, Sorted.find?]
      split
      · rfl
      · rfl
    · cases hset

end Payload

namespace LicenseSpec

/-- An entry that may be missing is found under its own index only. -/
theorem find?_reduceOption_cons {α : Type} (i j : FieldIndex) (o : Option α)
    (c : α → FieldValue) (os : List (Option (FieldIndex × FieldValue))) :
  Sorted.find? i ((o.map fun v => (j, c v)) :: os).reduceOption =
    (if i = j then o.map c else none).or (Sorted.find? i os.reduceOption)
  := by
  cases o with
  | none =>
    rw [Option.map_none, Option.map_none, ite_self]
    rfl
  | some v =>
    change Sorted.find? i ((j, c v) :: os.reduceOption) = _
    rw [Option.map_some, Sorted.find?]
    split
    · rfl
    · rfl

theorem get?_payload {b : LicenseSpec} {p : Payload} (h : b.payload = .ok p) (i : FieldIndex) :
  p.get? i = Sorted.find? i b.fields.reverse
  := by
  rw [Payload.get?_setAll h, Payload.get?_empty, Option.or_none]

/-- The fields of a payload are those of a description. -/
structure Describes (b : LicenseSpec) (p : Payload) : Prop where
  kind : p.byte? .licenseType = some b.kind.code
  licenseId : p.int32? .licenseId = b.licenseId
  licenseGuid : p.guid? .licenseGuid = b.licenseGuid
  validFrom : p.date? .validFrom = b.validFrom
  validTo : p.date? .validTo = b.validTo
  subscriptionEndDate : p.date? .subscriptionEndDate = b.subscriptionEndDate
  licensee : p.string? .licensee = b.licensee
  description : p.string? .description = b.description
  features : p.int64? .features = b.features.map fun f => f.bits.toInt64
  namespaceRestriction : p.string? .namespaceRestriction = b.namespaceRestriction
  minReaderVersion : p.int16? .minRequiredReaderVersion = b.minReaderVersion

theorem describes_of_get? {b : LicenseSpec} {p q : Payload} (h : b.payload = .ok p)
    (hq : ∀ i, i ≠ .signature → i ≠ .signatureKeyId → q.get? i = (p.get? i).map (·.kept)) :
  b.Describes q
  := by
  have hget (i : FieldIndex) (hs : i ≠ .signature) (hk : i ≠ .signatureKeyId) :
      q.get? i = (Sorted.find? i b.fields.reverse).map (·.kept) := by
    rw [hq i hs hk, get?_payload h]
  have hreverse (os : List (Option (FieldIndex × FieldValue))) :
      os.reduceOption.reverse = os.reverse.reduceOption := List.filterMap_reverse.symm
  have hnil (i : FieldIndex) :
      Sorted.find? i ([] : List (Option (FieldIndex × FieldValue))).reduceOption = none := rfl
  -- What is found for a fixed index is evaluated entry by entry; the entries may be missing.
  constructor
  all_goals
    simp +decide only [Payload.byte?, Payload.int32?, Payload.guid?, Payload.date?,
      Payload.string?, Payload.int64?, Payload.int16?, hget, fields, hreverse, hnil,
      List.reverse_cons, List.reverse_nil, List.nil_append, List.cons_append,
      Sorted.find?_append, find?_reduceOption_cons, Sorted.find?, if_true, if_false,
      Option.none_or, Option.or_none, ne_eq]
  case kind => rfl
  case licenseId => cases b.licenseId <;> rfl
  case licenseGuid => cases b.licenseGuid <;> rfl
  case validFrom => cases b.validFrom <;> rfl
  case validTo => cases b.validTo <;> rfl
  case subscriptionEndDate => cases b.subscriptionEndDate <;> rfl
  case licensee => cases b.licensee <;> rfl
  case description => cases b.description <;> rfl
  case features => cases b.features <;> rfl
  case namespaceRestriction => cases b.namespaceRestriction <;> rfl
  case minReaderVersion => cases b.minReaderVersion <;> rfl

/-- What a license that is described allows. -/
def grant (b : LicenseSpec) : Grant where
  licenseId := b.licenseId
  kind := b.kind
  features := b.features.getD b.kind.defaultFeatures
  namespaceRestriction := b.namespaceRestriction.filter fun n => n ≠ ""
  validFrom := b.validFrom
  validTo := b.validTo

/-- What a license that is described tells its user. -/
def registration (b : LicenseSpec) (key : String) : Registration where
  key := key
  licenseId := b.licenseId
  licenseGuid := b.licenseGuid
  kind := b.kind
  description := b.description.getD <|
    b.kind.displayName ++ " License" ++ (b.licensee.map (" for " ++ ·)).getD ""
  licensee := b.licensee
  validFrom := b.validFrom
  validTo := b.validTo
  subscriptionEndDate := b.subscriptionEndDate

namespace Describes

variable {b : LicenseSpec} {p : Payload}

theorem payload_kind (h : b.Describes p) (hkind : b.kind ≠ .unknown) :
  p.kind = .ok b.kind
  := by
  apply Payload.kind_eq_ok_iff.2
  use b.kind.code, h.kind, LicenseKind.ofCode?_code hkind

theorem payload_grant {trust : TrustPolicy} (h : b.Describes p) (hkind : b.kind ≠ .unknown)
    (hrevoked : ∀ id, b.licenseId = some id → trust.isRevoked id = false) :
  p.grant trust = .ok b.grant
  := by
  apply Payload.grant_eq_ok_iff.2
  constructor
  · rw [h.licenseId]
    apply hrevoked
  · use b.kind, h.payload_kind hkind
    have hfeatures : p.grantedFeatures b.kind = b.features.getD b.kind.defaultFeatures := by
      rw [Payload.grantedFeatures, h.features]
      cases b.features with
      | none => rfl
      | some f => simp
    rw [grant, h.licenseId, hfeatures, h.validFrom, h.validTo, Payload.namespaceRestriction?,
      h.namespaceRestriction]

theorem payload_registration (h : b.Describes p) (hkind : b.kind ≠ .unknown) (key : String) :
  p.registration key = b.registration key
  := by
  have hdefault : Registration.defaultDescription b.kind b.licensee =
      b.kind.displayName ++ " License" ++ (b.licensee.map (" for " ++ ·)).getD "" := by
    cases b.licensee with
    | none => simp [Registration.defaultDescription]
    | some n =>
      have hfor : " License for " = " License" ++ " for " := by decide
      rw [Registration.defaultDescription, Option.map_some, Option.getD_some, hfor]
      simp only [String.append_assoc]
  rw [Payload.registration, registration, h.licenseId, h.licenseGuid, h.payload_kind hkind,
    h.licensee, h.description, h.validFrom, h.validTo, h.subscriptionEndDate]
  change Registration.mk _ _ _ _ (b.description.getD
    (Registration.defaultDescription b.kind b.licensee)) _ _ _ _ = _
  rw [hdefault]
  rfl

end Describes

end LicenseSpec

/-! ### Signed payloads -/

theorem FieldIndex.type?_signature (signature : Bytes) :
  FieldIndex.signature.type? = some (FieldValue.byteBuffer signature).type
  := rfl

/-- The payload with a signature. -/
def Payload.signed (p : Payload) (signature : Bytes) : Payload :=
  p.insert .signature (.byteBuffer signature) (FieldIndex.type?_signature signature)

theorem Payload.get?_signed (p : Payload) (signature : Bytes) (i : FieldIndex) :
  (p.signed signature).get? i =
    if i = .signature then some (.byteBuffer signature) else p.get? i
  := get?_insert p .signature i _ _

theorem Payload.signable_signed {p : Payload} (signature : Bytes)
    (h : p.get? .signature = none) :
  (p.signed signature).signable = p.signable
  := by
  rw [signable_eq, signable_eq, remove_of_get?_eq_none h, signed, remove_insert _ _ h]

/-- The key of a payload that has been signed is read as what a key keeps of it, with all
records but the signature as the octets to be signed. -/
theorem Payload.ofText_signed {p : Payload} {signature : Bytes} {v : KeyVersion} {k : String}
    (h : (p.signed signature).keyText v = .ok k) (hunsigned : p.get? .signature = none)
    (hreader : ∀ n, p.int16? .minRequiredReaderVersion = some n → n ≤ 2) :
  ∃ d m, DecodedKey.ofText k = .ok d ∧ d.version = v ∧ d.payload = (p.signed signature).kept ∧
    p.signable = .ok m ∧ d.signedBytes? = some m
  := by
  obtain ⟨d, hd, hversion, hpayload, hsigned, -, -⟩ :=
    (DecodedKey.ofText_keyText h).2 fun n hn => by
      rw [int16?, get?_signed, if_neg (by decide)] at hn
      apply hreader n hn
  obtain ⟨m, hm, hbytes⟩ := hsigned <| by
    rw [contains, get?_signed]
    rfl
  rw [signable_signed _ hunsigned] at hm
  use d, m, hd, hversion, hpayload, hm, hbytes

namespace Issuer

theorem get?_signablePayload {s : Issuer} {v : KeyVersion} {p q : Payload}
    (h : s.signablePayload v p = .ok q) :
  q.get? .signature = none ∧ (v = .v2 → q.get? .signatureKeyId = some (.byte s.id)) ∧
    ∀ i, i ≠ .signature → i ≠ .signatureKeyId → q.get? i = p.get? i
  := by
  cases v with
  | v1 =>
    cases h
    constructor
    · rw [Payload.get?_remove, Payload.get?_remove]
      rfl
    · constructor
      · rintro ⟨⟩
      · intro i hs hk
        rw [Payload.get?_remove, Payload.get?_remove, if_neg hk, if_neg hs]
  | v2 =>
    change LicenseError.ofKey ((p.remove .signature).set .signatureKeyId (.byte s.id)) = .ok q at h
    have hset := LicenseError.ofKey_eq_ok_iff.1 h
    rw [Payload.set] at hset
    split at hset
    · cases hset
      constructor
      · rw [Payload.get?_insert, Payload.get?_remove]
        rfl
      · constructor
        · intro _
          rw [Payload.get?_insert, if_pos rfl]
        · intro i hs hk
          rw [Payload.get?_insert, Payload.get?_remove, if_neg hk, if_neg hs]
    · cases hset

/-- The octets that an issuer signs. -/
def message (s : Issuer) (version : KeyVersion) (p : Payload) : Except LicenseError Bytes := do
  let p ← s.signablePayload version p
  LicenseError.ofKey p.signable

variable [SignatureScheme]

/-- What issuing a key has gone through. -/
theorem issue_eq_ok {s : Issuer} {v : KeyVersion} {p : Payload} {k : String}
    (h : s.issue v p = .ok k) :
  ∃ q m, s.signablePayload v p = .ok q ∧ s.message v p = .ok m ∧ q.signable = .ok m ∧
    (q.signed (SignatureScheme.sign s.secret m)).keyText v = .ok k
  := by
  obtain ⟨q, hq, h₁⟩ := bind_ok_iff.1 h
  obtain ⟨m, hm, h₂⟩ := bind_ok_iff.1 h₁
  obtain ⟨q', hset, h₃⟩ := bind_ok_iff.1 h₂
  have hset' := LicenseError.ofKey_eq_ok_iff.1 hset
  rw [Payload.set, dif_pos (FieldIndex.type?_signature _)] at hset'
  cases hset'
  use q, m, hq
  constructor
  · rw [message, hq]
    apply hm
  · use LicenseError.ofKey_eq_ok_iff.1 hm, LicenseError.ofKey_eq_ok_iff.1 h₃

/-- What is read of a key that an issuer has issued for a payload: its fields, the number of
the issuer in version 2, and the signature of what the issuer signed, which stands last. -/
structure Issued (s : Issuer) (v : KeyVersion) (p : Payload) (d : DecodedKey) (m : Bytes) :
    Prop where
  version : d.version = v
  message : s.message v p = .ok m
  signedBytes : d.signedBytes? = some m
  signature : d.payload.byteBuffer? .signature = some (SignatureScheme.sign s.secret m)
  signer : v = .v2 → d.payload.byte? .signatureKeyId = some s.id
  fields : ∀ i, i ≠ .signature → i ≠ .signatureKeyId →
    d.payload.get? i = (p.get? i).map (·.kept)

theorem ofText_issue {s : Issuer} {v : KeyVersion} {p : Payload} {k : String}
    (h : s.issue v p = .ok k)
    (hreader : ∀ n, p.int16? .minRequiredReaderVersion = some n → n ≤ 2) :
  ∃ d m, DecodedKey.ofText k = .ok d ∧ s.Issued v p d m
  := by
  obtain ⟨q, m, hq, hmessage, hm, hk⟩ := issue_eq_ok h
  obtain ⟨hunsigned, hsigner, hothers⟩ := get?_signablePayload hq
  obtain ⟨d, m', hd, hversion, hpayload, hm', hbytes⟩ := Payload.ofText_signed hk hunsigned <| by
    intro n hn
    apply hreader n
    rw [Payload.int16?, hothers _ (by decide) (by decide)] at hn
    apply hn
  obtain rfl : m = m' := Except.ok.inj (hm.symm.trans hm')
  have hget (i : FieldIndex) : d.payload.get? i =
      (if i = .signature then some (.byteBuffer (SignatureScheme.sign s.secret m))
        else q.get? i).map (·.kept) := by
    rw [hpayload, Payload.get?_kept, Payload.get?_signed]
  use d, m, hd
  constructor
  · apply hversion
  · apply hmessage
  · apply hbytes
  · rw [Payload.byteBuffer?, hget, if_pos rfl]
    rfl
  · intro hv
    rw [Payload.byte?, hget, if_neg (by decide), hsigner hv]
    rfl
  · intro i hs hi
    rw [hget, if_neg hs, hothers i hs hi]

/-- The number under which the keys of an issuer are checked: its own, except that keys of
version 1 name none and are checked under that for production. -/
def number (s : Issuer) : KeyVersion → UInt8
  | .v1 => KeyRing.productionId
  | .v2 => s.id

/-- The signature of a key that has been issued is accepted where the issuer is trusted. -/
theorem Issued.verifySignature {s : Issuer} {v : KeyVersion} {p : Payload} {d : DecodedKey}
    {m : Bytes} {trust : TrustPolicy} (h : s.Issued v p d m)
    (hring : trust.ring.find? (s.number v) = some s.publicKey)
    (haccepts : SignatureScheme.Accepts s.secret m) :
  trust.verifySignature d = .ok ()
  := by
  apply TrustPolicy.verifySignature_eq_ok_iff.2
  use SignatureScheme.sign s.secret m, s.number v, m, h.signature
  constructor
  · apply TrustPolicy.signer_eq_ok_iff.2
    rw [h.version]
    constructor
    · rintro rfl
      apply h.signer rfl
    · rintro rfl
      rfl
  · use h.signedBytes
    apply TrustPolicy.verify_eq_ok_iff.2
    use s.publicKey, hring, haccepts.isPublicKey, haccepts.length_sign, haccepts.verify_sign

end Issuer

/-! ### Texts of keys -/

/-- The text of a key begins with the number of its version and has no blank characters. -/
theorem Payload.toList_keyText {v : KeyVersion} {p : Payload} {k : String}
    (h : p.keyText v = .ok k) :
  ∃ c cs, k.toList = c :: cs ∧ c ∈ ['1', '2'] ∧ ∀ d ∈ k.toList, Text.isBlank d = false
  := by
  obtain ⟨bs, -, hk⟩ := bind_ok_iff.1 h
  cases hk
  have hdigit : ∀ c ∈ ['1', '2'], Text.isBlank c = false := List.all_iff_forall_prop.1 (by decide)
  obtain ⟨c, hc, hmem⟩ := v.exists_digit
  use c, '-' :: Symbols.encode bs
  constructor
  · simp [hc]
  · use hmem
    intro d hd
    have hd' : d = c ∨ d = '-' ∨ d ∈ Symbols.encode bs := by simpa [hc] using hd
    rcases hd' with rfl | rfl | hd'
    · apply hdigit d hmem
    · rfl
    · have := Symbols.isSeparator_of_mem_encode hd'
      rw [Symbols.isSeparator, Bool.or_eq_false_iff] at this
      apply this.2

theorem Payload.trim_keyText {v : KeyVersion} {p : Payload} {k : String}
    (h : p.keyText v = .ok k) :
  Text.trim k = k
  := by
  obtain ⟨_, _, _, _, hblank⟩ := toList_keyText h
  rw [Text.trim, Text.trimChars_of_not_isBlank hblank, String.ofList_toList]

/-- A text that does not begin with a letter is no address. -/
theorem Url.isWebAddress_of_digit {k : String} {c : Char} {cs : List Char}
    (hk : k.toList = c :: cs) (hc : isControlOrSpace c = false) (hbreak : isBreak c = false)
    (halpha : c.isAlpha = false) :
  isWebAddress k = false
  := by
  have htrim : ∃ rest, (c :: cs).rdropWhile isControlOrSpace = c :: rest := by
    obtain ⟨rest, hprefix⟩ := List.rdropWhile_prefix isControlOrSpace (c :: cs)
    cases hdrop : (c :: cs).rdropWhile isControlOrSpace with
    | nil =>
      rw [List.rdropWhile_eq_nil_iff.1 hdrop c List.mem_cons_self] at hc
      cases hc
    | cons b bs =>
      rw [hdrop] at hprefix
      use bs, congrArg (· :: bs) (List.cons.inj hprefix).1
  obtain ⟨rest, hrest⟩ := htrim
  have hsignificant : significant k.toList = c :: rest.filter fun d => !isBreak d := by
    unfold significant
    rw [hk, List.dropWhile_cons, hc]
    change ((c :: cs).rdropWhile isControlOrSpace).filter _ = _
    rw [hrest, List.filter_cons, hbreak]
    rfl
  rw [isWebAddress, hsignificant, scheme?, halpha]
  rfl

/-- A text that begins with the digit of a version stands for a license, whether or not it can
be read. -/
theorem License.ofText_of_digit {t : String} {c : Char} {cs : List Char}
    (ht : (Text.trim t).toList = c :: cs) (hc : c ∈ ['1', '2']) (trust : TrustPolicy) :
  License.ofText trust t =
    .ok ⟨Text.trim t, DecodedKey.ofText (Text.trim t), trust, .keyText⟩
  := by
  have hempty : Text.trim t ≠ "" := by
    intro h
    rw [h] at ht
    cases ht
  have hdigit : ∀ c ∈ ['1', '2'], Url.isControlOrSpace c = false ∧ Url.isBreak c = false ∧
      c.isAlpha = false := List.all_iff_forall_prop.1 (by decide)
  obtain ⟨hcontrol, hbreak, halpha⟩ := hdigit c hc
  unfold License.ofText
  dsimp only
  rw [if_neg hempty, Url.isWebAddress_of_digit ht hcontrol hbreak halpha]
  rfl

/-- The text of a key is that of a license that can be read, as it stands. -/
theorem License.ofText_of_keyText {v : KeyVersion} {p : Payload} {k : String}
    (h : p.keyText v = .ok k) (trust : TrustPolicy) :
  License.ofText trust k = .ok ⟨k, DecodedKey.ofText k, trust, .keyText⟩
  := by
  obtain ⟨c, cs, hk, hc, -⟩ := Payload.toList_keyText h
  have htrim := Payload.trim_keyText h
  rw [← htrim] at hk
  rw [License.ofText_of_digit hk hc, htrim]

/-! ### Licenses -/

section

variable [SignatureScheme] {s : Issuer} {v : KeyVersion} {k : String}

theorem License.ofText_issue {p : Payload} (h : s.issue v p = .ok k) (trust : TrustPolicy) :
  License.ofText trust k = .ok ⟨k, DecodedKey.ofText k, trust, .keyText⟩
  := by
  obtain ⟨q, m, -, -, -, hk⟩ := Issuer.issue_eq_ok h
  apply License.ofText_of_keyText hk

namespace LicenseSpec

/-- A key that has been issued for a description is read with the fields of the
description. -/
theorem describes_of_issue {b : LicenseSpec} {p : Payload} (hp : b.payload = .ok p)
    (h : s.issue v p = .ok k) (hreader : ∀ n, b.minReaderVersion = some n → n ≤ 2) :
  ∃ d m, DecodedKey.ofText k = .ok d ∧ s.Issued v p d m ∧ b.Describes d.payload
  := by
  have hp' : b.Describes p.kept := describes_of_get? hp fun i _ _ => Payload.get?_kept p i
  obtain ⟨d, m, hd, hissued⟩ := Issuer.ofText_issue h fun n hn => by
    apply hreader n
    rw [← hp'.minReaderVersion, Payload.int16?_kept, hn]
  use d, m, hd, hissued
  apply describes_of_get? hp hissued.fields

/-- The license of a key that has been issued for a description of a known kind allows what was
described, where the issuer is trusted and the license has not been revoked. -/
theorem grant_of_issued {b : LicenseSpec} {p : Payload} {d : DecodedKey} {m : Bytes}
    {trust : TrustPolicy} (hkind : b.kind ≠ .unknown) (hd : DecodedKey.ofText k = .ok d)
    (hissued : s.Issued v p d m) (hdescribes : b.Describes d.payload)
    (hrevoked : ∀ id, b.licenseId = some id → trust.isRevoked id = false)
    (hring : trust.ring.find? (s.number v) = some s.publicKey)
    (haccepts : SignatureScheme.Accepts s.secret m) :
  (License.mk k (DecodedKey.ofText k) trust .keyText).grant = .ok b.grant
  := by
  apply License.grant_eq_ok_iff.2
  use d, hd
  constructor
  · intro _
    apply hissued.verifySignature hring haccepts
  · apply hdescribes.payload_grant hkind hrevoked

/-- What is described is what is granted and told: a key that has been issued for a
description of a known kind stands for a license which, under a policy that trusts the
issuer and has not revoked it, allows exactly what was described, and which is described to
its user as was said. -/
theorem issued_license {b : LicenseSpec} {p : Payload} {trust : TrustPolicy}
    (hkind : b.kind ≠ .unknown) (hp : b.payload = .ok p) (h : s.issue v p = .ok k)
    (hreader : ∀ n, b.minReaderVersion = some n → n ≤ 2)
    (hrevoked : ∀ id, b.licenseId = some id → trust.isRevoked id = false)
    (hring : trust.ring.find? (s.number v) = some s.publicKey)
    (haccepts : ∀ m, s.message v p = .ok m → SignatureScheme.Accepts s.secret m) :
  ∃ l r, License.ofText trust k = .ok l ∧ l.grant = .ok b.grant ∧
    l.registration = .ok r ∧ r = b.registration k ∧ r.isPerpetual = b.validTo.isNone
  := by
  obtain ⟨d, m, hd, hissued, hdescribes⟩ := describes_of_issue hp h hreader
  use ⟨k, DecodedKey.ofText k, trust, .keyText⟩, b.registration k
  constructor
  · apply License.ofText_issue h
  · constructor
    · apply grant_of_issued hkind hd hissued hdescribes hrevoked hring
      apply haccepts m hissued.message
    · constructor
      · rw [License.registration, hd, ← hdescribes.payload_registration hkind]
        rfl
      · use rfl
        rfl

end LicenseSpec

end

/-! ### A license for one namespace -/

/-- An issuer with the number 7. -/
def licensor : Issuer := ⟨7, List.replicate 32 7⟩

/-- The policy that takes the public key of the issuer for keys of version 1. -/
def licensorTrust : TrustPolicy := .ofRing (KeyRing.empty.insert 0 licensor.publicKey)

/-- A license that has a beginning, and features of its own. -/
def adaLicense : LicenseSpec where
  kind := .professional
  licenseId := some 42
  licenseGuid := some ⟨List.replicate 16 1, rfl⟩
  validFrom := some .keyEpoch
  licensee := some "Ada"
  features := some .debugger
  namespaceRestriction := some "Acme"
  minReaderVersion := some 2

theorem LicenseSpec.issued_license_ada :
  ∃ p k l r, adaLicense.payload = .ok p ∧ licensor.issue .v1 p = .ok k ∧
    License.ofText licensorTrust k = .ok l ∧ l.grant = .ok adaLicense.grant ∧
    l.registration = .ok r ∧ r.description = "Professional License for Ada" ∧
    r.isPerpetual = true
  := by
  have hrun : (do
      let p ← LicenseError.ofKey adaLicense.payload
      let k ← licensor.issue .v1 p
      let m ← licensor.message .v1 p
      return decide (SignatureScheme.Accepts licensor.secret m)).toOption = some true := by
    decide +kernel
  obtain ⟨p, hp, h₁⟩ := bind_ok_iff.1 (eq_ok_of_toOption hrun)
  obtain ⟨k, hk, h₂⟩ := bind_ok_iff.1 h₁
  obtain ⟨m, hm, h₃⟩ := bind_ok_iff.1 h₂
  have haccepts : SignatureScheme.Accepts licensor.secret m :=
    of_decide_eq_true (Except.ok.inj h₃)
  have hpayload := LicenseError.ofKey_eq_ok_iff.1 hp
  have hkind : adaLicense.kind ≠ .unknown := by decide
  have hreader : ∀ n, adaLicense.minReaderVersion = some n → n ≤ 2 := by
    rintro _ ⟨⟩
    decide
  have hrevoked : ∀ id, adaLicense.licenseId = some id → licensorTrust.isRevoked id = false := by
    rintro _ ⟨⟩
    decide
  have hring : licensorTrust.ring.find? (licensor.number .v1) = some licensor.publicKey := rfl
  obtain ⟨l, r, hl, hgrant, hregistration, hr, hperpetual⟩ :=
    issued_license hkind hpayload hk hreader hrevoked hring fun m' hm' => by
      rw [hm] at hm'
      cases hm'
      apply haccepts
  use p, k, l, r, hpayload, hk, hl, hgrant, hregistration
  constructor
  · rw [hr]
    rfl
  · apply hperpetual

end Entitlement
