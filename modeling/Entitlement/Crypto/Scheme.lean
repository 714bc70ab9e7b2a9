import Entitlement.Bytes

/-!
# Signature schemes

What license keys need of signatures is a public key for every secret one, a signature for
every message, and a test. The theory of license keys works for every scheme of this form;
`SignatureScheme.Accepts` says that the test accepts the signature of a message.
-/

namespace Entitlement

/-- The scheme of the signatures on license keys. -/
class SignatureScheme where
  /-- The public key of a secret one. -/
  publicKey : (secret : Bytes) → Bytes
  /-- The signature of a message. -/
  sign : (secret message : Bytes) → Bytes
  /-- The octets are a public key. -/
  isPublicKey : Bytes → Bool
  /-- The signature is one of the message. -/
  verify : (publicKey message signature : Bytes) → Bool

namespace SignatureScheme

/-- The number of octets of a signature. -/
def signatureLength : Nat := 64

/-- The signature of the message has its length and is accepted under the public key of the
secret. -/
structure Accepts [SignatureScheme] (secret message : Bytes) : Prop where
  isPublicKey : SignatureScheme.isPublicKey (publicKey secret) = true
  length_sign : (sign secret message).length = signatureLength
  verify_sign : verify (publicKey secret) message (sign secret message) = true

instance [SignatureScheme] (secret message : Bytes) : Decidable (Accepts secret message) :=
  decidable_of_iff (isPublicKey (publicKey secret) = true ∧
      (sign secret message).length = signatureLength ∧
      verify (publicKey secret) message (sign secret message) = true)
    ⟨fun h => ⟨h.1, h.2.1, h.2.2⟩, fun h => ⟨h.1, h.2, h.3⟩⟩

end SignatureScheme

end Entitlement
