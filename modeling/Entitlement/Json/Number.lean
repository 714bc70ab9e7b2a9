import Entitlement.Json.Shortest

/-!
# Numbers

A `Number` is an integer that fits a signed or an unsigned word of 64 bits, or a double.
A number that is written with a point or an exponent, or does not fit, or is `-0`, is a
double.

Reading goes in two steps. `Numeral.read?` takes the digits off the front of a text, and
`Numeral.value?` gives them a value. For a double only as many digits count as fit an
unsigned word; the others set the exponent. A numeral above all doubles has no value.
-/

namespace Entitlement.Json

/-- A number of a text. -/
inductive Number where
  | integer (n : Int) (le : -0x8000000000000000 ≤ n) (lt : n < 0x10000000000000000)
  | double (negative : Bool) (x : Magnitude)
deriving DecidableEq

namespace Number

/-- The text of a number. -/
def text : Number → String
  | integer n _ _ => toString n
  | double negative x => (if negative then "-" else "") ++ x.text

end Number

/-- The digits of a number as they are written. -/
structure Numeral where
  negative : Bool
  /-- The digits before the point. -/
  whole : List Nat
  /-- The digits behind the point, none when there is no point. -/
  fraction : List Nat
  exponent : Option Int
deriving DecidableEq

namespace Numeral

/-! ### Taking digits off a text -/

/-- The digits at the front of a text. -/
def digits (cs : List Char) : List Nat :=
  (cs.takeWhile Char.isDigit).map fun c => c.toNat - 48

/-- The text behind its first digits. -/
def afterDigits (cs : List Char) : List Char :=
  cs.dropWhile Char.isDigit

/-- The digits before the point, which start with a zero only when they are one zero. -/
def readWhole? : List Char → Option (List Nat × List Char)
  | '0' :: cs => some ([0], cs)
  | cs => if (digits cs).isEmpty then none else some (digits cs, afterDigits cs)

/-- The digits behind the point; a point needs one. -/
def readFraction? : List Char → Option (List Nat × List Char)
  | '.' :: cs => if (digits cs).isEmpty then none else some (digits cs, afterDigits cs)
  | cs => some ([], cs)

/-- The number that decimal digits stand for. -/
def ofDigits (ds : List Nat) : Nat :=
  ds.foldl (fun n d => 10 * n + d) 0

/-- The exponent behind its letter. -/
def readPower? (negative : Bool) (cs : List Char) : Option (Option Int × List Char) :=
  if (digits cs).isEmpty then none
  else
    let n := ofDigits (digits cs)
    some (some (if negative then -(n : Int) else n), afterDigits cs)

/-- The exponent. -/
def readExponent? : List Char → Option (Option Int × List Char)
  | c :: cs =>
    if c = 'e' ∨ c = 'E' then
      match cs with
      | '+' :: cs => readPower? false cs
      | '-' :: cs => readPower? true cs
      | cs => readPower? false cs
    else some (none, c :: cs)
  | [] => some (none, [])

/-- The numeral at the front of a text, and the text behind it. -/
def read? (cs : List Char) : Option (Numeral × List Char) := do
  let (negative, cs) := match cs with
    | '-' :: cs => (true, cs)
    | cs => (false, cs)
  let (whole, cs) ← readWhole? cs
  let (fraction, cs) ← readFraction? cs
  let (exponent, cs) ← readExponent? cs
  return (⟨negative, whole, fraction, exponent⟩, cs)

/-! ### Values -/

/-- The number that continues `n` with as many of the digits as fit an unsigned word, and
the digits that are left. -/
def absorb (n : Nat) : List Nat → Nat × List Nat
  | [] => (n, [])
  | d :: ds => if 10 * n + d < UInt64.size then absorb (10 * n + d) ds else (n, d :: ds)

/-- The double of a numeral. -/
def double? (t : Numeral) : Option Number := do
  let (n, beyond) := absorb 0 t.whole
  let (n, ignored) := absorb n t.fraction
  let places : Int := (t.fraction.length : Int) - ignored.length
  let x ← Magnitude.round? n 1
  let x ← x.timesTenTo? (beyond.length - places + t.exponent.getD 0)
  return .double t.negative x

/-- The value of a numeral. A numeral of digits alone that fits a word is an integer,
except for `-0`. -/
def value? (t : Numeral) : Option Number :=
  let n : Int := ofDigits t.whole
  if t.fraction ≠ [] ∨ t.exponent.isSome then t.double?
  else if t.negative then
    if h : 0 < n ∧ n ≤ 0x8000000000000000 then some (.integer (-n) (by omega) (by omega))
    else t.double?
  else
    if h : n < 0x10000000000000000 ∧ 0 ≤ n then some (.integer n (by omega) h.1) else t.double?

end Numeral

/-- The number at the front of a text, and the text behind it. -/
def Number.read? (cs : List Char) : Option (Number × List Char) := do
  let (t, cs) ← Numeral.read? cs
  let x ← t.value?
  return (x, cs)

end Entitlement.Json
