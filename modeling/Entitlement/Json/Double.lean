/-!
# Doubles

A `Magnitude` is a number without sign of the binary format with 53 significant bits: a
mantissa below `2 ^ 53` times a power of two that is at least `2 ^ -1074`. Of the ways to
write a number so, the one with the largest mantissa is used. `Magnitude.round?` is the
magnitude nearest to a quotient of natural numbers, in exact arithmetic; a tie goes to the
even mantissa, and a quotient above all magnitudes has none.
-/

namespace Entitlement.Json

/-- The number `mantissa * 2 ^ exponent`. -/
structure Magnitude where
  mantissa : Nat
  exponent : Int
deriving DecidableEq

namespace Magnitude

def zero : Magnitude := ⟨0, -1074⟩

/-- A numerator of the number over `denominator`. -/
def numerator (x : Magnitude) : Nat := x.mantissa * Nat.pow 2 x.exponent.toNat

/-- The power of two that `numerator` is over. -/
def denominator (x : Magnitude) : Nat := Nat.pow 2 (-x.exponent).toNat

/-! ### Rounding -/

/-- The natural number nearest to a quotient, of two at the same distance the even one. -/
def nearest (num den : Nat) : Nat :=
  let q := num / den
  let r := num % den
  if 2 * r < den ∨ (2 * r = den ∧ q % 2 = 0) then q else q + 1

/-- A quotient divided by a power of two, as numerator and denominator. -/
def descale (num den : Nat) (e : Int) : Nat × Nat :=
  (num * Nat.pow 2 (-e).toNat, den * Nat.pow 2 e.toNat)

/-- The exponent with which a positive quotient has a mantissa of 53 bits, or of fewer if
that exponent is the least one. -/
def exponentOf (num den : Nat) : Int :=
  let e : Int := (num.log2 : Int) - den.log2 - 53
  let (n, d) := descale num den e
  max (-1074) (if n / d < Nat.pow 2 53 then e else e + 1)

/-- The magnitude nearest to a quotient, if it is not too large. -/
def round? (num den : Nat) : Option Magnitude :=
  if num = 0 then some zero
  else
    let e := exponentOf num den
    let (n, d) := descale num den e
    let m := nearest n d
    let x : Magnitude := if m = Nat.pow 2 53 then ⟨Nat.pow 2 52, e + 1⟩ else ⟨m, e⟩
    if x.exponent ≤ 971 then some x else none

/-- The product, rounded. -/
def mul? (x y : Magnitude) : Option Magnitude :=
  round? (x.numerator * y.numerator) (x.denominator * y.denominator)

/-- The quotient, rounded. -/
def div? (x y : Magnitude) : Option Magnitude :=
  round? (x.numerator * y.denominator) (x.denominator * y.numerator)

/-- The number times `10 ^ e`. It is multiplied or divided once by a rounded power of ten;
an exponent below -308 is reached by steps of 308, each of which rounds. -/
def timesTenTo? (x : Magnitude) (e : Int) : Option Magnitude :=
  if -308 ≤ e ∧ e ≤ 308 then do
    let power ← round? (Nat.pow 10 e.natAbs) 1
    if 0 ≤ e then x.mul? power else x.div? power
  else if x.mantissa = 0 then some zero
  else if 0 ≤ e then none
  else do
    let power ← round? (Nat.pow 10 308) 1
    let y ← x.div? power
    y.timesTenTo? (e + 308)
termination_by (-e).toNat

example : round? 1 1 = some ⟨Nat.pow 2 52, -52⟩ := by decide +kernel

example : round? 1 10 = some ⟨7205759403792794, -56⟩ := by decide +kernel

example : round? (Nat.pow 2 1024) 1 = none := by decide +kernel

end Magnitude

end Entitlement.Json
