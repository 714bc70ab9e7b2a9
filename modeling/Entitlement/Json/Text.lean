import Entitlement.Bytes

/-!
# Strings

In a string the quote, the backslash and the controls below `U+0020` are written with a
backslash, the controls with a letter of their own by that letter and the others by four
hexadecimal digits; all other characters stand for themselves. `Quoted.encode` writes a
string so. `Quoted.decode` reads what stands between two quotes and accepts every escape
there is; a surrogate must be the first or the second half of a pair. `Quoted.skip` finds
the end of a string and does not care about surrogates.
-/

namespace Entitlement.Json.Quoted

/-! ### Writing -/

/-- The spelling of a character in a string. -/
def spell (c : Char) : List Char :=
  if c = '"' then ['\\', '"']
  else if c = '\\' then ['\\', '\\']
  else if c = '\x08' then ['\\', 'b']
  else if c = '\t' then ['\\', 't']
  else if c = '\n' then ['\\', 'n']
  else if c = '\x0c' then ['\\', 'f']
  else if c = '\r' then ['\\', 'r']
  else if c < ' ' then
    ['\\', 'u', '0', '0', Bytes.hexDigit (c.toNat / 16), Bytes.hexDigit (c.toNat % 16)]
  else [c]

/-- The string with its quotes. -/
def encode (s : String) : List Char :=
  '"' :: (s.toList.flatMap spell ++ ['"'])

/-! ### Reading -/

/-- The character that a letter behind a backslash stands for. -/
def letter? : Char → Option Char
  | '"' => some '"'
  | '\\' => some '\\'
  | '/' => some '/'
  | 'b' => some '\x08'
  | 'f' => some '\x0c'
  | 'n' => some '\n'
  | 'r' => some '\r'
  | 't' => some '\t'
  | _ => none

/-- The number that four hexadecimal digits stand for. -/
def unit? (a b c d : Char) : Option Nat := do
  let a ← Bytes.hexValue? a
  let b ← Bytes.hexValue? b
  let c ← Bytes.hexValue? c
  let d ← Bytes.hexValue? d
  return 4096 * a + 256 * b + 16 * c + d

/-- The unit is the first half of a pair of surrogates. -/
def isHigh (n : Nat) : Bool := 0xD800 ≤ n && n ≤ 0xDBFF

/-- The unit is the second half of a pair of surrogates. -/
def isLow (n : Nat) : Bool := 0xDC00 ≤ n && n ≤ 0xDFFF

/-- The character that a pair of surrogates stands for. -/
def ofPair (high low : Nat) : Char :=
  Char.ofNat (0x10000 + 0x400 * (high - 0xD800) + (low - 0xDC00))

/-- The characters up to the closing quote, and the text behind it. -/
def decode : List Char → Option (List Char × List Char)
  | [] => none
  | '"' :: cs => some ([], cs)
  | '\\' :: 'u' :: a :: b :: c :: d :: cs =>
    match unit? a b c d with
    | none => none
    | some n =>
      if isHigh n then
        match cs with
        | '\\' :: 'u' :: e :: f :: g :: h :: cs =>
          match unit? e f g h with
          | none => none
          | some m =>
            if isLow m then (decode cs).map fun (s, rest) => (ofPair n m :: s, rest) else none
        | _ => none
      else if isLow n then none
      else (decode cs).map fun (s, rest) => (Char.ofNat n :: s, rest)
  | '\\' :: e :: cs =>
    match letter? e with
    | none => none
    | some c => (decode cs).map fun (s, rest) => (c :: s, rest)
  | c :: cs =>
    if c < ' ' ∨ c = '\\' then none else (decode cs).map fun (s, rest) => (c :: s, rest)

/-- The text behind the closing quote. -/
def skip : List Char → Option (List Char)
  | [] => none
  | '"' :: cs => some cs
  | '\\' :: 'u' :: a :: b :: c :: d :: cs => if (unit? a b c d).isSome then skip cs else none
  | '\\' :: e :: cs => if (letter? e).isSome then skip cs else none
  | c :: cs => if c < ' ' ∨ c = '\\' then none else skip cs

end Entitlement.Json.Quoted
