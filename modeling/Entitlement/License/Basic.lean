import Entitlement.License.Kind
import Entitlement.License.Namespace
import Entitlement.Trust.Policy
import Entitlement.Url.Web

/-!
# Licenses

A `License` is a key together with the policy that decides whether it is believed. It comes
from a text (`License.ofText`) or is made by the program itself (`License.inProcess`); only
the former needs a signature.

Two things are read off a license. Its `Registration` describes it and is there whenever
the key can be read. Its `Grant` says what it allows; it is there when the key is signed by
a trusted key, has not been revoked and is of a known kind.
-/

namespace Entitlement

/-- The day is in the period between two days, either of which may be open. -/
def Date.isWithin (today : Date) (first last : Option Date) : Bool :=
  first.all (fun d => d ≤ today) && last.all (fun d => today ≤ d)

/-! ### What is read off a license -/

/-- What describes a license to its user. -/
structure Registration where
  key : String
  licenseId : Option Int32
  licenseGuid : Option Guid
  kind : LicenseKind
  description : String
  licensee : Option String
  validFrom : Option Date
  validTo : Option Date
  subscriptionEndDate : Option Date
deriving DecidableEq

namespace Registration

/-- The license does not end. -/
def isPerpetual (r : Registration) : Bool := r.validTo.isNone

/-- The license has ended before the day. -/
def isExpired (r : Registration) (today : Date) : Bool := r.validTo.any fun d => d < today

/-- The license is in its period of validity. -/
def isValidOn (r : Registration) (today : Date) : Bool := today.isWithin r.validFrom r.validTo

/-- The description of a license that has none of its own. -/
def defaultDescription (kind : LicenseKind) : (licensee : Option String) → String
  | some licensee => kind.displayName ++ " License for " ++ licensee
  | none => kind.displayName ++ " License"

end Registration

/-- What a license allows. -/
structure Grant where
  licenseId : Option Int32
  kind : LicenseKind
  features : Features
  namespaceRestriction : Option String
  validFrom : Option Date
  validTo : Option Date
deriving DecidableEq

namespace Grant

/-- The license is in its period of validity. -/
def isValidOn (g : Grant) (today : Date) : Bool := today.isWithin g.validFrom g.validTo

/-- The license covers the namespace. -/
def allowsNamespace (g : Grant) (consumer : String) : Bool :=
  g.namespaceRestriction.all fun r => Namespace.covers r consumer

/-- The license allows the features in the namespace on the day. -/
def allows (g : Grant) (required : Features) (consumer : String) (today : Date) : Bool :=
  g.features.contains required && g.allowsNamespace consumer && g.isValidOn today

end Grant

namespace Payload

/-- The kind of license that a payload is for. -/
def kind (p : Payload) : Except LicenseError LicenseKind :=
  match p.byte? .licenseType with
  | none => .error (.missingField .licenseType)
  | some code =>
    match LicenseKind.ofCode? code with
    | none => .error (.invalidPayload (.unknownKind code))
    | some k => .ok k

/-- The namespace that a payload restricts its license to; an empty one is no restriction. -/
def namespaceRestriction? (p : Payload) : Option String :=
  (p.string? .namespaceRestriction).filter fun s => s ≠ ""

/-- The description of a license by its payload. -/
def registration (p : Payload) (key : String) : Registration :=
  let kind := p.kind.toOption.getD .unknown
  let licensee := p.string? .licensee
  { key
    licenseId := p.int32? .licenseId
    licenseGuid := p.guid? .licenseGuid
    kind
    description := (p.string? .description).getD (Registration.defaultDescription kind licensee)
    licensee
    validFrom := p.date? .validFrom
    validTo := p.date? .validTo
    subscriptionEndDate := p.date? .subscriptionEndDate }

/-- The features that a payload grants to a license of the kind. -/
def grantedFeatures (p : Payload) (kind : LicenseKind) : Features :=
  match p.int64? .features with
  | some bits => ⟨bits.toUInt64⟩
  | none => kind.defaultFeatures

/-- What a payload allows, apart from its signature, unless its license has been revoked. -/
def grant (p : Payload) (trust : TrustPolicy) : Except LicenseError Grant := do
  let licenseId := p.int32? .licenseId
  match licenseId.filter trust.isRevoked with
  | some id => throw (.revoked id)
  | none =>
    let kind ← p.kind
    return {
      licenseId
      kind
      features := p.grantedFeatures kind
      namespaceRestriction := p.namespaceRestriction?
      validFrom := p.date? .validFrom
      validTo := p.date? .validTo }

end Payload

/-! ### Licenses -/

/-- Where a license comes from. -/
inductive Origin where
  /-- A text from outside. -/
  | keyText
  /-- The program itself. -/
  | inProcess
deriving DecidableEq

/-- The name of an origin. -/
def Origin.name : Origin → String
  | keyText => "KeyString"
  | inProcess => "InProcess"

/-- A key with the policy that decides about it. -/
structure License where
  key : String
  decoded : Except KeyError DecodedKey
  trust : TrustPolicy
  origin : Origin

namespace License

/-- The license that a text stands for. Blank texts and addresses of license servers stand
for none; any other text does, even if it cannot be read as a key. -/
def ofText (trust : TrustPolicy) (text : String) : Except LicenseError License :=
  let key := Text.trim text
  if key = "" then .error .empty
  else if Url.isWebAddress key then .error .serverNotSupported
  else .ok ⟨key, DecodedKey.ofText key, trust, .keyText⟩

/-- The license that the program makes of a payload. -/
def inProcess (trust : TrustPolicy) (p : Payload) : Except LicenseError License := do
  let key ← LicenseError.ofKey (p.keyText .current)
  let decoded ← LicenseError.ofKey (DecodedKey.ofText key)
  return ⟨key, .ok decoded, trust, .inProcess⟩

/-- The fields of a license whose key can be read. -/
def payload? (l : License) : Option Payload := l.decoded.toOption.map (·.payload)

/-- The key can be read. -/
def isReadable (l : License) : Bool := l.payload?.isSome

/-- What is wrong with a key that cannot be read. -/
def keyError? (l : License) : Option KeyError :=
  match l.decoded with
  | .error e => some e
  | .ok _ => none

/-- The version of a key that can be read. -/
def version? (l : License) : Option KeyVersion := l.decoded.toOption.map (·.version)

/-- The namespace that the license is restricted to. -/
def namespaceRestriction? (l : License) : Option String := l.payload?.bind (·.namespaceRestriction?)

/-- The description of a license. -/
def registration (l : License) : Except LicenseError Registration := do
  let k ← LicenseError.ofKey l.decoded
  return k.payload.registration l.key

/-- What a license allows. -/
def grant [SignatureScheme] (l : License) : Except LicenseError Grant := do
  let k ← LicenseError.ofKey l.decoded
  if l.origin = .keyText then
    l.trust.verifySignature k
  k.payload.grant l.trust

/-- The licenses are the same: both come from a text or neither does, and they have the
same fields, or the same key if it cannot be read. -/
def same (a b : License) : Bool :=
  a.origin = b.origin &&
    match a.decoded, b.decoded with
    | .ok a, .ok b => a.payload = b.payload
    | .error _, .error _ => a.key = b.key
    | _, _ => false

/-- What a license is told apart by: its origin, and its fields, or its key if it cannot be
read. -/
def identity (l : License) : Origin × (String ⊕ Payload) :=
  (l.origin, match l.decoded with
    | .ok k => .inr k.payload
    | .error _ => .inl l.key)

theorem same_iff (a b : License) :
  a.same b = true ↔ a.identity = b.identity
  := by
  unfold same identity
  cases a.decoded <;> cases b.decoded <;> simp

theorem same_congr {a b : License} (h : a.same b = true) (c : License) :
  a.same c = b.same c
  := by
  rw [Bool.eq_iff_iff, same_iff, same_iff, (same_iff a b).1 h]

/-- The key, whether it can be read, and where the license comes from. -/
def describe (l : License) : String :=
  "License \x7b key: " ++ Text.Quoted.text l.key ++ ", valid: " ++ toString l.isReadable
    ++ ", origin: " ++ l.origin.name ++ " \x7d"

end License

end Entitlement
