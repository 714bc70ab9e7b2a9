import Entitlement.Proofs.Consumption.Completeness
import Entitlement.Proofs.License.Issued
import Mathlib.Data.List.ReduceOption

/-!
# Programs that run unattended

The license of an unattended program can be had under every policy and allows all features
with a name, for it is made by the program itself: no signature is asked of it, and it has no
number under which it could be revoked (`Supply.exists_unattendedLicense`). A key from outside
is never the same license, even if it has the same text, so that no other source can hide it
(`Request.granted_unattended`). Such a key has no signature, and nothing is granted by it
(`License.grant_of_unsigned`).
-/

namespace Entitlement

/-! ### Licenses that a program makes itself -/

namespace LicenseSpec

theorem get?_signature {b : LicenseSpec} {p : Payload} (hp : b.payload = .ok p) :
  p.get? .signature = none
  := by
  rw [get?_payload hp]
  apply Sorted.find?_eq_none_of_forall_ne
  intro f hf hsig
  have hfields : ∀ f ∈ b.fields, f.1 ≠ .signature := by
    simp +decide [fields, List.reduceOption_mem_iff, or_imp, forall_and]
  apply hfields f (List.mem_reverse.1 hf) hsig.symm

/-- What a program makes of a description itself is a license that can be read and has no
signature. -/
theorem inProcess_eq_ok {b : LicenseSpec} {p : Payload} {key : String}
    (hp : b.payload = .ok p) (hkey : p.keyText .current = .ok key)
    (hreader : ∀ n, b.minReaderVersion = some n → n ≤ 2) (trust : TrustPolicy) :
  ∃ d, License.inProcess trust p = .ok ⟨key, .ok d, trust, .inProcess⟩ ∧
    b.Describes d.payload ∧ d.payload.get? .signature = none
  := by
  have hdescribes : b.Describes p.kept := describes_of_get? hp fun i _ _ => Payload.get?_kept p i
  obtain ⟨d, hd, -, hpayload, -⟩ := (DecodedKey.ofText_keyText hkey).2 fun n hn => by
    apply hreader n
    rw [← hdescribes.minReaderVersion, Payload.int16?_kept, hn]
  use d
  constructor
  · rw [License.inProcess, hkey]
    change (LicenseError.ofKey (DecodedKey.ofText key) >>= _) = _
    rw [hd]
    rfl
  · rw [hpayload]
    use hdescribes
    rw [Payload.get?_kept, get?_signature hp]
    rfl

end LicenseSpec

/-! ### The license of an unattended program -/

/-- The license has been made by the program itself, of what an unattended program is
allowed. -/
def License.IsUnattended (l : License) : Prop :=
  l.origin = .inProcess ∧ ∃ d, l.decoded = .ok d ∧ Supply.unattendedSpec.Describes d.payload

/-- The license of an unattended program can be had under every policy, and it has no
signature. -/
theorem Supply.exists_unattendedLicense (trust : TrustPolicy) :
  ∃ u, unattendedLicense trust = .ok u ∧ u.IsUnattended ∧
    ∃ p, u.payload? = some p ∧ p.get? .signature = none
  := by
  have hrun : (do
      let p ← unattendedSpec.payload
      p.keyText .current).toOption.isSome = true := by decide +kernel
  obtain ⟨key, hkey⟩ := Option.isSome_iff_exists.1 hrun
  obtain ⟨p, hp, hkeyText⟩ := bind_ok_iff.1 (eq_ok_of_toOption hkey)
  obtain ⟨d, hd, hdescribes, hunsigned⟩ :=
    LicenseSpec.inProcess_eq_ok hp hkeyText (by rintro _ ⟨⟩) trust
  use ⟨key, .ok d, trust, .inProcess⟩
  constructor
  · rw [unattendedLicense, hp]
    apply hd
  · use ⟨rfl, d, rfl, hdescribes⟩, d.payload, rfl

namespace License

theorem IsUnattended.of_same {l m : License} (hl : l.IsUnattended) (hsame : l.same m = true) :
  m.IsUnattended
  := by
  obtain ⟨horigin, d, hd, hdescribes⟩ := hl
  have hidentity := (same_iff l m).1 hsame
  rw [identity, identity, hd] at hidentity
  obtain ⟨horigin', hfields⟩ := Prod.mk.inj hidentity
  use horigin'.symm.trans horigin
  cases hm : m.decoded with
  | error e =>
    rw [hm] at hfields
    cases hfields
  | ok k =>
    rw [hm] at hfields
    have hpayload : d.payload = k.payload := Sum.inr.inj hfields
    use k, rfl
    rwa [← hpayload]

variable [SignatureScheme]

/-- The license of an unattended program is believed as such, and it cannot be revoked. -/
theorem IsUnattended.grant_eq {l : License} (hl : l.IsUnattended) :
  l.grant = .ok Supply.unattendedSpec.grant
  := by
  obtain ⟨horigin, d, hd, hdescribes⟩ := hl
  apply grant_eq_ok_iff.2
  use d, hd
  constructor
  · intro htext
    rw [horigin] at htext
    cases htext
  · apply hdescribes.payload_grant (by decide)
    rintro _ ⟨⟩

/-- A key from outside without a signature grants nothing. -/
theorem grant_of_unsigned {l : License} {p : Payload} (horigin : l.origin = .keyText)
    (hp : l.payload? = some p) (hunsigned : p.get? .signature = none) :
  l.grant = .error .missingSignature
  := by
  rw [payload?] at hp
  cases hdecoded : l.decoded with
  | error e =>
    rw [hdecoded] at hp
    cases hp
  | ok k =>
    rw [hdecoded] at hp
    cases hp
    have hverify : l.trust.verifySignature k = .error .missingSignature := by
      rw [TrustPolicy.verifySignature, Payload.byteBuffer?, hunsigned]
    rw [grant, hdecoded, horigin]
    change (l.trust.verifySignature k >>= fun _ => _) = _
    rw [hverify]
    rfl

end License

namespace Request

section

variable [SignatureScheme] (r : Request) (today : Date)

/-- The license of an unattended program allows all features with a name, everywhere and
always. -/
theorem isGrantedBy_of_isUnattended {l : License} (hl : l.IsUnattended)
    (hfeatures : Features.all.contains r.features = true) :
  r.isGrantedBy today l = true
  := by
  apply (r.isGrantedBy_iff today).2
  use Supply.unattendedSpec.grant, hl.grant_eq
  apply Grant.allows_iff.2
  use hfeatures
  constructor
  · rintro _ ⟨⟩
  · constructor
    · rintro _ ⟨⟩
    · rintro _ ⟨⟩

/-- Wherever an unattended program stands among the sources, a request for features with a
name is granted. If it is granted by a key from outside, then the signature of that key has
been accepted; a copy of the license of the program, which has none, grants nothing. -/
theorem granted_unattended {sources : List Source} {s : Source} {trust : TrustPolicy}
    (hs : s ∈ sources) (hsupply : s.supply = .unattended trust true)
    (hfeatures : Features.all.contains r.features = true) :
  ∃ u l, Supply.unattendedLicense trust = .ok u ∧ r.isGrantedBy today u = true ∧
    (r.decide today [] sources).1.isGranted = true ∧
    (candidates sources).find? (r.isGrantedBy today) = some l ∧
    (r.decide today [] sources).1.grantedBy = some l.key ∧
    (l.origin = .keyText →
      ∃ k, l.decoded = .ok k ∧ l.trust.verifySignature k = .ok ()) ∧
    ∀ m : License, m.origin = .keyText → m.payload? = u.payload? →
      m.grant = .error .missingSignature ∧ m ≠ l
  := by
  obtain ⟨u, hu, hunattended, p, hp, hunsigned⟩ := Supply.exists_unattendedLicense trust
  have hyields : u ∈ (yields sources).flatten := by
    apply List.mem_flatten.2
    use s.pull.1, List.mem_map_of_mem hs
    rw [Source.pull, hsupply, Supply.licenses, hu]
    apply List.mem_singleton_self
  have hgranted := r.isGrantedBy_of_isUnattended today hunattended hfeatures
  -- What is the same has the same origin, and is believed for the same reason.
  have hleader : r.HasLeader today (yields sources).flatten :=
    HasLeader.of_forall_same r today hyields hgranted fun m _ hsame =>
      r.isGrantedBy_of_isUnattended today (hunattended.of_same hsame) hfeatures
  have hdecide := (r.isGranted_iff_hasLeader today sources).2 hleader
  have hsome := hdecide
  rw [Decision.isGranted, grantedBy_decide, Option.isSome_map] at hsome
  obtain ⟨l, hl⟩ := Option.isSome_iff_exists.1 hsome
  obtain ⟨g, hg, -⟩ := (r.isGrantedBy_iff today).1 (List.find?_some hl)
  obtain ⟨k, hk, hverified, -⟩ := License.grant_eq_ok_iff.1 hg
  use u, l, hu, hgranted, hdecide, hl
  constructor
  · rw [grantedBy_decide, hl, Option.map_some]
  · use fun horigin => ⟨k, hk, hverified horigin⟩
    intro m horigin hm
    have hmissing := License.grant_of_unsigned horigin (hm.trans hp) hunsigned
    use hmissing
    rintro rfl
    rw [hmissing] at hg
    cases hg

end

/-! ### Behind copies of the license -/

/-- The text of the license of an unattended program. -/
def unattendedText : String :=
  "2-2A5JL9S22222222222D3L84PFTJRAX57FTL8CT32EBUQLV5663Q8LSV7FTTQDZS"

/-- A policy that trusts no key. -/
def noTrust : TrustPolicy := .ofRing .empty

/-- An unattended program behind a list and a store that hold the text of its license. -/
def copiedSources : List Source :=
  [.ofKeys noTrust [unattendedText],
    .ofStore noTrust {}
      { store := some ("\x7b\"licenses\":[\"" ++ unattendedText ++ "\"]\x7d") },
    .unattended noTrust true]

/-- The copy in the list is tried and grants nothing, that in the store is the same, and the
request is granted by the license that the program has made. -/
theorem granted_unattended_copied :
  ∃ l, ((⟨.all, "Acme"⟩ : Request).decide .keyEpoch [] copiedSources).1 =
      ⟨some l.key, [unattendedText, unattendedText]⟩ ∧
    (candidates copiedSources).find? ((⟨.all, "Acme"⟩ : Request).isGrantedBy .keyEpoch) = some l ∧
    l.origin = .inProcess
  := by
  have hrun : ((⟨.all, "Acme"⟩ : Request).decide .keyEpoch [] copiedSources).1.evaluated =
      [unattendedText, unattendedText] ∧
      ((candidates copiedSources).find?
        ((⟨.all, "Acme"⟩ : Request).isGrantedBy .keyEpoch)).map (·.origin) = some .inProcess := by
    decide +kernel
  obtain ⟨hevaluated, horigin⟩ := hrun
  have hmem : Source.unattended noTrust true ∈ copiedSources :=
    List.mem_cons_of_mem _ (List.mem_cons_of_mem _ List.mem_cons_self)
  obtain ⟨u, l, -, -, -, hl, hgrantedBy, -⟩ :=
    granted_unattended (⟨.all, "Acme"⟩ : Request) .keyEpoch hmem rfl (by decide)
  rw [hl] at horigin
  use l
  constructor
  · rw [← hgrantedBy, ← hevaluated]
  · use hl, Option.some.inj horigin

end Request

end Entitlement
