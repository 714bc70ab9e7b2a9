import Entitlement.Crypto.Edwards
import Entitlement.Crypto.Scheme
import Entitlement.Crypto.Sha2

/-!
# Ed25519

The signature scheme Ed25519 over the curve of `Entitlement.Edwards` and SHA-512. A
signature is a compressed point `R` and a scalar `S`. The test asks for an `S` below the
order of the generator, computes the point that `R` has to be, and compares octets: it
takes public keys of small order and those whose `y` is not reduced, and hashes the public
key as it is given.
-/

namespace Entitlement.Ed25519

open Edwards

/-- The order of the generator. -/
def order : Nat := Nat.pow 2 252 + 27742317777372353535851937790883648493

/-- The hash of a message as a scalar. -/
def hashScalar (message : Bytes) : Nat :=
  Bytes.ofLittleEndian (Sha512.hash message) % order

/-- A scalar, from the first half of the hash of the secret: a multiple of eight with the
bit 254 as its highest. -/
def secretScalar (secret : Bytes) : Nat :=
  let n := Bytes.ofLittleEndian ((Sha512.hash secret).take 32)
  Nat.pow 2 254 + n % Nat.pow 2 254 / 8 * 8

/-- The multiple of the generator. -/
def multiple (n : Nat) : Point := Point.base.scale 255 n

/-- The public key of a secret. -/
def publicKey (secret : Bytes) : Bytes :=
  (multiple (secretScalar secret)).compress

/-- The signature of a message. -/
def sign (secret message : Bytes) : Bytes :=
  let nonce := hashScalar ((Sha512.hash secret).drop 32 ++ message)
  let point := (multiple nonce).compress
  let challenge := hashScalar (point ++ publicKey secret ++ message)
  point ++ Bytes.littleEndian 32 ((nonce + challenge * secretScalar secret) % order)

/-- The octets stand for a point. -/
def isPublicKey (publicKey : Bytes) : Bool :=
  publicKey.length = 32 && (Point.decompress? publicKey).isSome

/-- The signature is one of the message. -/
def verify (publicKey message signature : Bytes) : Bool :=
  match Point.decompress? publicKey with
  | none => false
  | some point =>
    let commitment := signature.take 32
    let scalar := Bytes.ofLittleEndian (signature.drop 32)
    let challenge := hashScalar (commitment ++ publicKey ++ message)
    signature.length = SignatureScheme.signatureLength && scalar < order
      && ((point.neg.scale 255 challenge).add (multiple scalar)).compress = commitment

/-- License keys are signed with Ed25519. -/
instance : SignatureScheme := ⟨publicKey, sign, isPublicKey, verify⟩

theorem length_sign (secret message : Bytes) :
  (SignatureScheme.sign secret message).length = SignatureScheme.signatureLength
  := by
  change (sign secret message).length = 64
  unfold sign
  dsimp only
  rw [List.length_append, Point.length_compress, Bytes.length_littleEndian]

end Entitlement.Ed25519
