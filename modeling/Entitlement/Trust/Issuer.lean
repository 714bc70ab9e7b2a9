import Entitlement.Trust.Policy

/-!
# Issuers

An `Issuer` holds a secret key and makes license keys. `Issuer.issue` puts the signature on
a payload, in place of any that is there, and writes it as a license key. In version 2 the
key names its signer.
-/

namespace Entitlement

/-- A secret key with its number. -/
structure Issuer where
  id : UInt8
  secret : Bytes

namespace Issuer

/-- The payload that an issuer signs. -/
def signablePayload (s : Issuer) (version : KeyVersion) (p : Payload) :
    Except LicenseError Payload :=
  let p := p.remove .signature
  if version.namesSigner then LicenseError.ofKey (p.set .signatureKeyId (.byte s.id))
  else .ok (p.remove .signatureKeyId)

variable [SignatureScheme]

/-- The public key of an issuer. -/
def publicKey (s : Issuer) : Bytes := SignatureScheme.publicKey s.secret

/-- The signed license key of a version with the fields of a payload. -/
def issue (s : Issuer) (version : KeyVersion) (p : Payload) : Except LicenseError String := do
  let p ← s.signablePayload version p
  let message ← LicenseError.ofKey p.signable
  let signature := SignatureScheme.sign s.secret message
  let p ← LicenseError.ofKey (p.set .signature (.byteBuffer signature))
  LicenseError.ofKey (p.keyText version)

/-- The number and public key of an issuer; its secret is not shown. -/
def describe (s : Issuer) : String :=
  "IssuerKey \x7b key_id: " ++ toString s.id.toNat ++ ", public_key: \""
    ++ s.publicKey.hex ++ "\", .. \x7d"

end Issuer

end Entitlement
