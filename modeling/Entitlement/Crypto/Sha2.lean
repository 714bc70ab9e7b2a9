import Entitlement.Bytes

/-!
# SHA-2

The hash functions SHA-256 and SHA-512. Both are instances of one construction, given by
`Sha2`: the message is filled up to whole blocks of sixteen words, the words of each block
are extended to one for each round, and the rounds mix them into eight words of state,
which are added to those from before the block. The functions differ in the size of words,
the amounts of rotation and the constants.
-/

namespace Entitlement

/-- A hash function of the family, over words of type `W`. -/
structure Sha2 (W : Type) where
  /-- The number of octets of a word. -/
  wordSize : Nat
  ofNat : Nat → W
  toNat : W → Nat
  /-- The mixing of `a` and of `e` in a round. -/
  mixA : W → W
  mixE : W → W
  /-- The mixing of the words 15 and 2 places back in the schedule. -/
  mix15 : W → W
  mix2 : W → W
  /-- One constant for each round. -/
  constants : List W
  /-- The state before the first block. -/
  initial : W × W × W × W × W × W × W × W

namespace Sha2

variable {W : Type}

/-- The eight words of state. -/
abbrev State (W : Type) := W × W × W × W × W × W × W × W

/-- A number in `n` octets, the most significant first. -/
def bigEndian (n m : Nat) : Bytes :=
  (Bytes.littleEndian n m).reverse

/-- The message, a one bit, as few zero bits as fill up a block, and the length in bits. -/
def padded (h : Sha2 W) (message : Bytes) : Bytes :=
  let block := 16 * h.wordSize
  let tail := 2 * h.wordSize
  let zeros := (block - (message.length + 1 + tail) % block) % block
  message ++ 0x80 :: (List.replicate zeros 0 ++ bigEndian tail (8 * message.length))

/-- The pieces of `n + 1` octets of a message. -/
def pieces (n : Nat) : Bytes → List Bytes
  | [] => []
  | b :: bs => (b :: bs.take n) :: pieces n (bs.drop n)
termination_by bs => bs.length
decreasing_by
  simp only [List.length_drop, List.length_cons]
  omega

/-- The words of a message, the most significant octet of each first. -/
def words (h : Sha2 W) (bs : Bytes) : List W :=
  (pieces (h.wordSize - 1) bs).map fun p => h.ofNat (Bytes.ofLittleEndian p.reverse)

section Rounds

variable [Add W] [AndOp W] [XorOp W] [Complement W]

/-- `n` further words of the schedule, of which `ws` are those so far, the latest first. -/
def extend (h : Sha2 W) : (n : Nat) → (ws : List W) → List W
  | 0, ws => ws
  | n + 1, ws =>
    match ws[1]?, ws[6]?, ws[14]?, ws[15]? with
    | some w2, some w7, some w15, some w16 =>
      extend h n ((h.mix2 w2 + w7 + h.mix15 w15 + w16) :: ws)
    | _, _, _, _ => ws

/-- One word for each round. -/
def schedule (h : Sha2 W) (block : Bytes) : List W :=
  (extend h (h.constants.length - 16) (h.words block).reverse).reverse

/-- One round with a constant and a word of the schedule. -/
def round (h : Sha2 W) : State W → W × W → State W
  | (a, b, c, d, e, f, g, i), (k, w) =>
    let t₁ := i + h.mixE e + ((e &&& f) ^^^ (~~~e &&& g)) + k + w
    let t₂ := h.mixA a + ((a &&& b) ^^^ (a &&& c) ^^^ (b &&& c))
    (t₁ + t₂, a, b, c, d + t₁, e, f, g)

/-- The state after a block. -/
def compress (h : Sha2 W) (s : State W) (block : Bytes) : State W :=
  let (a, b, c, d, e, f, g, i) := s
  let (a', b', c', d', e', f', g', i') := (h.constants.zip (h.schedule block)).foldl h.round s
  (a + a', b + b', c + c', d + d', e + e', f + f', g + g', i + i')

/-- The hash of a message. -/
def hash (h : Sha2 W) (message : Bytes) : Bytes :=
  let (a, b, c, d, e, f, g, i) :=
    (pieces (16 * h.wordSize - 1) (h.padded message)).foldl h.compress h.initial
  [a, b, c, d, e, f, g, i].flatMap fun w => bigEndian h.wordSize (h.toNat w)

end Rounds

end Sha2

/-! ### SHA-256 -/

namespace Sha256

/-- The word rotated to the right. -/
def rotate (n : UInt32) (w : UInt32) : UInt32 :=
  (w >>> n) ||| (w <<< (32 - n))

/-- The parameters of SHA-256. -/
def parameters : Sha2 UInt32 where
  wordSize := 4
  ofNat := UInt32.ofNat
  toNat := UInt32.toNat
  mixA w := rotate 2 w ^^^ rotate 13 w ^^^ rotate 22 w
  mixE w := rotate 6 w ^^^ rotate 11 w ^^^ rotate 25 w
  mix15 w := rotate 7 w ^^^ rotate 18 w ^^^ (w >>> 3)
  mix2 w := rotate 17 w ^^^ rotate 19 w ^^^ (w >>> 10)
  constants := [0x428a2f98, 0x71374491, 0xb5c0fbcf, 0xe9b5dba5, 0x3956c25b, 0x59f111f1,
    0x923f82a4, 0xab1c5ed5, 0xd807aa98, 0x12835b01, 0x243185be, 0x550c7dc3,
    0x72be5d74, 0x80deb1fe, 0x9bdc06a7, 0xc19bf174, 0xe49b69c1, 0xefbe4786,
    0x0fc19dc6, 0x240ca1cc, 0x2de92c6f, 0x4a7484aa, 0x5cb0a9dc, 0x76f988da,
    0x983e5152, 0xa831c66d, 0xb00327c8, 0xbf597fc7, 0xc6e00bf3, 0xd5a79147,
    0x06ca6351, 0x14292967, 0x27b70a85, 0x2e1b2138, 0x4d2c6dfc, 0x53380d13,
    0x650a7354, 0x766a0abb, 0x81c2c92e, 0x92722c85, 0xa2bfe8a1, 0xa81a664b,
    0xc24b8b70, 0xc76c51a3, 0xd192e819, 0xd6990624, 0xf40e3585, 0x106aa070,
    0x19a4c116, 0x1e376c08, 0x2748774c, 0x34b0bcb5, 0x391c0cb3, 0x4ed8aa4a,
    0x5b9cca4f, 0x682e6ff3, 0x748f82ee, 0x78a5636f, 0x84c87814, 0x8cc70208,
    0x90befffa, 0xa4506ceb, 0xbef9a3f7, 0xc67178f2]
  initial := (0x6a09e667, 0xbb67ae85, 0x3c6ef372, 0xa54ff53a,
    0x510e527f, 0x9b05688c, 0x1f83d9ab, 0x5be0cd19)

/-- The thirty-two octets of the hash. -/
def hash (message : Bytes) : Bytes :=
  parameters.hash message

end Sha256

/-! ### SHA-512 -/

namespace Sha512

/-- The word rotated to the right. -/
def rotate (n : UInt64) (w : UInt64) : UInt64 :=
  (w >>> n) ||| (w <<< (64 - n))

/-- The parameters of SHA-512. -/
def parameters : Sha2 UInt64 where
  wordSize := 8
  ofNat := UInt64.ofNat
  toNat := UInt64.toNat
  mixA w := rotate 28 w ^^^ rotate 34 w ^^^ rotate 39 w
  mixE w := rotate 14 w ^^^ rotate 18 w ^^^ rotate 41 w
  mix15 w := rotate 1 w ^^^ rotate 8 w ^^^ (w >>> 7)
  mix2 w := rotate 19 w ^^^ rotate 61 w ^^^ (w >>> 6)
  constants := [0x428a2f98d728ae22, 0x7137449123ef65cd, 0xb5c0fbcfec4d3b2f,
    0xe9b5dba58189dbbc, 0x3956c25bf348b538, 0x59f111f1b605d019,
    0x923f82a4af194f9b, 0xab1c5ed5da6d8118, 0xd807aa98a3030242,
    0x12835b0145706fbe, 0x243185be4ee4b28c, 0x550c7dc3d5ffb4e2,
    0x72be5d74f27b896f, 0x80deb1fe3b1696b1, 0x9bdc06a725c71235,
    0xc19bf174cf692694, 0xe49b69c19ef14ad2, 0xefbe4786384f25e3,
    0x0fc19dc68b8cd5b5, 0x240ca1cc77ac9c65, 0x2de92c6f592b0275,
    0x4a7484aa6ea6e483, 0x5cb0a9dcbd41fbd4, 0x76f988da831153b5,
    0x983e5152ee66dfab, 0xa831c66d2db43210, 0xb00327c898fb213f,
    0xbf597fc7beef0ee4, 0xc6e00bf33da88fc2, 0xd5a79147930aa725,
    0x06ca6351e003826f, 0x142929670a0e6e70, 0x27b70a8546d22ffc,
    0x2e1b21385c26c926, 0x4d2c6dfc5ac42aed, 0x53380d139d95b3df,
    0x650a73548baf63de, 0x766a0abb3c77b2a8, 0x81c2c92e47edaee6,
    0x92722c851482353b, 0xa2bfe8a14cf10364, 0xa81a664bbc423001,
    0xc24b8b70d0f89791, 0xc76c51a30654be30, 0xd192e819d6ef5218,
    0xd69906245565a910, 0xf40e35855771202a, 0x106aa07032bbd1b8,
    0x19a4c116b8d2d0c8, 0x1e376c085141ab53, 0x2748774cdf8eeb99,
    0x34b0bcb5e19b48a8, 0x391c0cb3c5c95a63, 0x4ed8aa4ae3418acb,
    0x5b9cca4f7763e373, 0x682e6ff3d6b2b8a3, 0x748f82ee5defb2fc,
    0x78a5636f43172f60, 0x84c87814a1f0ab72, 0x8cc702081a6439ec,
    0x90befffa23631e28, 0xa4506cebde82bde9, 0xbef9a3f7b2c67915,
    0xc67178f2e372532b, 0xca273eceea26619c, 0xd186b8c721c0c207,
    0xeada7dd6cde0eb1e, 0xf57d4f7fee6ed178, 0x06f067aa72176fba,
    0x0a637dc5a2c898a6, 0x113f9804bef90dae, 0x1b710b35131c471b,
    0x28db77f523047d84, 0x32caab7b40c72493, 0x3c9ebe0a15c9bebc,
    0x431d67c49c100d4c, 0x4cc5d4becb3e42b6, 0x597f299cfc657e2a,
    0x5fcb6fab3ad6faec, 0x6c44198c4a475817]
  initial := (0x6a09e667f3bcc908, 0xbb67ae8584caa73b,
    0x3c6ef372fe94f82b, 0xa54ff53a5f1d36f1,
    0x510e527fade682d1, 0x9b05688c2b3e6c1f,
    0x1f83d9abfb41bd6b, 0x5be0cd19137e2179)

/-- The sixty-four octets of the hash. -/
def hash (message : Bytes) : Bytes :=
  parameters.hash message

end Sha512

end Entitlement
