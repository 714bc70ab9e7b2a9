import Entitlement.Crypto.Scheme
import Entitlement.Key.Text
import Entitlement.License.Error

/-!
# Trust

A `TrustPolicy` says which license keys are believed: those signed by a key of its ring,
except for licenses that have been revoked. `TrustPolicy.verifySignature` decides about the
signature of a key. The signer is the key of the ring that a license key names in version
2, and the production key in version 1; the signature must stand last in the license key
and is one of all that stands before it.
-/

namespace Entitlement

/-- The public keys that may sign, by their numbers. -/
structure KeyRing where
  /-- The public key with a number. -/
  find? : UInt8 → Option Bytes

namespace KeyRing

/-- The number of the key that signs for production. -/
def productionId : UInt8 := 0

/-- The key that signs for production. -/
def productionKey : Bytes :=
  [78, 251, 43, 221, 113, 43, 187, 0, 182, 218, 247, 209, 13, 236, 196, 220,
    110, 118, 127, 211, 208, 185, 196, 37, 126, 40, 117, 242, 47, 99, 95, 202]

/-- The ring without keys. -/
def empty : KeyRing := ⟨fun _ => none⟩

/-- The ring with one more key, in place of the one with its number. -/
def insert (r : KeyRing) (id : UInt8) (key : Bytes) : KeyRing :=
  ⟨fun i => if i = id then some key else r.find? i⟩

/-- The ring that holds the production key. -/
def production : KeyRing := empty.insert productionId productionKey

/-- There is a key with the number. -/
def contains (r : KeyRing) (id : UInt8) : Bool := (r.find? id).isSome

end KeyRing

/-- Which license keys are believed. -/
structure TrustPolicy where
  ring : KeyRing
  /-- The licenses that have been revoked. -/
  revoked : List Int32

namespace TrustPolicy

/-- The licenses that are revoked under every policy. -/
def alwaysRevoked : List Int32 := [1000481, 1002207, 1004913, 1011350]

/-- The policy that trusts the keys of a ring. -/
def ofRing (ring : KeyRing) : TrustPolicy := ⟨ring, alwaysRevoked⟩

/-- The policy that trusts the production key. -/
def production : TrustPolicy := ofRing .production

/-- The policy that trusts one more key. -/
def insertKey (t : TrustPolicy) (id : UInt8) (key : Bytes) : TrustPolicy :=
  { t with ring := t.ring.insert id key }

theorem find?_insertKey (t : TrustPolicy) (id : UInt8) (key : Bytes) (i : UInt8) :
  (t.insertKey id key).ring.find? i = if i = id then some key else t.ring.find? i
  := rfl

/-- The policy under which further licenses are revoked. -/
def revoke (t : TrustPolicy) (ids : List Int32) : TrustPolicy :=
  { t with revoked := t.revoked ++ ids }

/-- The license has been revoked. -/
def isRevoked (t : TrustPolicy) (id : Int32) : Bool := t.revoked.contains id

/-- The number of the key that signed a license key. -/
def signer (k : DecodedKey) : Except LicenseError UInt8 :=
  if k.version.namesSigner then
    match k.payload.byte? .signatureKeyId with
    | some id => .ok id
    | none => .error (.missingField .signatureKeyId)
  else .ok KeyRing.productionId

variable [SignatureScheme]

/-- The signature is one of the message by the key with the number. -/
def verify (t : TrustPolicy) (id : UInt8) (message signature : Bytes) :
    Except LicenseError Unit :=
  match t.ring.find? id with
  | none => .error (.unknownSignatureKey id)
  | some key =>
    if !SignatureScheme.isPublicKey key then .error (.invalidPublicKey id)
    else if signature.length = SignatureScheme.signatureLength
        && SignatureScheme.verify key message signature then .ok ()
    else .error .invalidSignature

/-- The license key is signed by a key that is trusted. -/
def verifySignature (t : TrustPolicy) (k : DecodedKey) : Except LicenseError Unit :=
  match k.payload.byteBuffer? .signature with
  | none => .error .missingSignature
  | some signature => do
    let id ← signer k
    match k.signedBytes? with
    | none => .error .invalidSignature
    | some message => t.verify id message signature

end TrustPolicy

end Entitlement
