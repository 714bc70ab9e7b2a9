import Entitlement.Key.Error
import Entitlement.Text.Blank

/-!
# Symbols

The octets of a license key are written with thirty-two symbols, each of which stands for
five bits, the first for the most significant ones. The last symbol is filled up with zero
bits. `Symbols.encode` writes octets; `Symbols.decode` reads symbols of either case, passes
over dashes and blank characters, and drops the bits at the end that fill no octet.

Both go through the text with a word that holds the bits not yet dealt with: fewer than
five of them when writing and fewer than eight when reading.
-/

namespace Entitlement.Symbols

/-- The symbols in the order of their values. Digits and letters that look alike are left
out. -/
def alphabet : List Char :=
  ['2', '3', '4', '5', '6', '7', '8', '9', 'A', 'B', 'C', 'D', 'E', 'F', 'G', 'H',
    'J', 'K', 'L', 'M', 'N', 'P', 'Q', 'R', 'S', 'T', 'U', 'V', 'W', 'X', 'Y', 'Z']

theorem length_alphabet :
  alphabet.length = 32
  := rfl

/-- The symbol for the five low bits of a word. -/
def symbol (word : UInt32) : Char :=
  alphabet.get ⟨word.toNat % 32, Nat.mod_lt _ (by decide)⟩

/-- The value of a symbol of either case. -/
def value? (c : Char) : Option UInt32 :=
  (alphabet.idxOf? c.toUpper).map UInt32.ofNat

/-- The character only separates symbols. -/
def isSeparator (c : Char) : Bool :=
  c = '-' || Text.isBlank c

/-- The `n` low bits of a word. -/
def lowBits (word : UInt32) (n : Nat) : UInt32 :=
  word &&& ((1 <<< UInt32.ofNat n) - 1)

/-! ### Writing -/

/-- The symbols that `n` low bits of a word fill. -/
def filled (word : UInt32) : (n : Nat) → List Char
  | n + 5 => symbol (word >>> UInt32.ofNat n) :: filled word n
  | _ => []

/-- The symbols of octets after `n` bits of `word` that have none yet. -/
def encodeFrom (word : UInt32) (n : Nat) : Bytes → List Char
  | [] => if n = 0 then [] else [symbol (word <<< UInt32.ofNat (5 - n))]
  | b :: bs =>
    let word := (word <<< 8) ||| b.toUInt32
    let rest := (n + 8) % 5
    filled word (n + 8) ++ encodeFrom (lowBits word rest) rest bs

/-- The symbols of octets. -/
def encode (bs : Bytes) : List Char :=
  encodeFrom 0 0 bs

/-! ### Reading -/

/-- The octets of symbols after `n` bits of `word` that fill none yet. -/
def decodeFrom (word : UInt32) (n : Nat) : List Char → Except KeyError Bytes
  | [] => .ok []
  | c :: cs =>
    if isSeparator c then decodeFrom word n cs
    else match value? c with
      | none => .error (.invalidSymbol c)
      | some v =>
        let word := (word <<< 5) ||| v
        if n < 3 then decodeFrom word (n + 5) cs
        else do
          let bs ← decodeFrom (lowBits word (n - 3)) (n - 3) cs
          return (word >>> UInt32.ofNat (n - 3)).toUInt8 :: bs

/-- The octets of a text of symbols and separators. -/
def decode (cs : List Char) : Except KeyError Bytes :=
  decodeFrom 0 0 cs

example : encode [0x42, 0x54] = ['A', 'B', 'C', '2'] := by decide

end Entitlement.Symbols
