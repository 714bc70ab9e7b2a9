import Entitlement.Json.Double

/-!
# Shortest decimals

The reals nearest to a magnitude form an interval around it, whose ends belong to it when
the mantissa is even. `Magnitude.shortest` is the decimal in this interval with the fewest
digits, of those the one nearest to the magnitude, and of two at the same distance the
one with the even last digit.

`Magnitude.text` writes it with a point when the first digit is at most sixteen places
before the point or at most five places behind it, and with an exponent and its sign
otherwise.
-/

namespace Entitlement.Json

/-- The number `digits * 10 ^ exponent`. -/
structure Decimal where
  digits : Nat
  exponent : Int
deriving DecidableEq

namespace Magnitude

/-- The number of decimal digits of a positive number. -/
def digitCount (n : Nat) : Nat := (Nat.toDigits 10 n).length

/-- The exponent of the first decimal digit of a positive quotient. -/
def leadingPlace (num den : Nat) : Int :=
  if den ≤ num then (digitCount (num / den) : Int) - 1
  else -(digitCount ((den - 1) / num) : Int)

/-- The multiple `n` of a quarter of the last place of `x`, as a multiple of `10 ^ k`: a
numerator and a denominator. -/
def quarters (x : Magnitude) (n : Nat) (k : Int) : Nat × Nat :=
  (n * Nat.pow 2 (x.exponent - 2).toNat * Nat.pow 10 (-k).toNat,
    Nat.pow 2 (2 - x.exponent).toNat * Nat.pow 10 k.toNat)

/-- The decimal `d * 10 ^ k` is one of those that are nearest to `x`. -/
def isNearestTo (x : Magnitude) (k : Int) (d : Nat) : Bool :=
  let below := if x.mantissa = Nat.pow 2 52 ∧ -1074 < x.exponent then 1 else 2
  let (low, den) := x.quarters (4 * x.mantissa - below) k
  let (high, _) := x.quarters (4 * x.mantissa + 2) k
  if x.mantissa % 2 = 0 then low ≤ d * den && d * den ≤ high
  else low < d * den && d * den < high

/-- The multiple of `10 ^ k` that reads back as `x`, if there is one. -/
def onGrid? (x : Magnitude) (k : Int) : Option Decimal :=
  let (num, den) := x.quarters (4 * x.mantissa) k
  let d := num / den
  let r := num % den
  match x.isNearestTo k d, x.isNearestTo k (d + 1) with
  | true, true => some ⟨if 2 * r < den ∨ (2 * r = den ∧ d % 2 = 0) then d else d + 1, k⟩
  | true, false => some ⟨d, k⟩
  | false, true => some ⟨d + 1, k⟩
  | false, false => none

/-- The decimal without zeros at its end. -/
def trimZeros : (fuel : Nat) → Decimal → Decimal
  | 0, x => x
  | fuel + 1, x =>
    if x.digits % 10 = 0 then trimZeros fuel ⟨x.digits / 10, x.exponent + 1⟩ else x

/-- The shortest decimal nearest to a positive number. -/
def shortest (x : Magnitude) : Decimal :=
  let place := leadingPlace x.numerator x.denominator
  let found := (List.range 17).findSome? fun (i : Nat) => x.onGrid? (place - i)
  trimZeros 17 (found.getD ⟨0, 0⟩)

/-- The decimal text of a number. -/
def text (x : Magnitude) : String :=
  if x.mantissa = 0 then "0.0"
  else
    let s := x.shortest
    let digits := Nat.toDigits 10 s.digits
    let point := digits.length + s.exponent
    String.ofList <|
      if 0 ≤ s.exponent ∧ point ≤ 16 then
        digits ++ List.replicate s.exponent.toNat '0' ++ ['.', '0']
      else if 0 < point ∧ point ≤ 16 then
        digits.take point.toNat ++ '.' :: digits.drop point.toNat
      else if -5 < point ∧ point ≤ 0 then
        '0' :: '.' :: List.replicate (-point).toNat '0' ++ digits
      else
        let fraction := digits.drop 1
        let sign := if 0 < point then ['e', '+'] else ['e', '-']
        digits.take 1 ++ (if fraction.isEmpty then [] else '.' :: fraction)
          ++ sign ++ Nat.toDigits 10 (point - 1).natAbs

end Magnitude

end Entitlement.Json
