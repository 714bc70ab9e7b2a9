import Entitlement.Json.Double
import Mathlib.Algebra.Order.Field.Power
import Mathlib.Data.Rat.Cast.Order
import Mathlib.Tactic.FieldSimp
import Mathlib.Tactic.Linarith
import Mathlib.Tactic.NormNum
import Mathlib.Tactic.Positivity
import Mathlib.Tactic.Ring

/-!
# How far rounding goes

Rounding a positive quotient changes it by half a place of the mantissa at most
(`Json.Magnitude.round?_bounds`), so by no more than a part in `2 ^ 53` when the quotient is
at least one (`Json.Magnitude.value_le_of_one_le`). A quotient that is not halfway between the
largest magnitude and the power of two after it has a magnitude nearest to it
(`Json.Magnitude.exists_round?`). So a number of few digits times a power of ten has a
magnitude, if it stays below that by as much as two roundings add to it
(`Json.Magnitude.exists_timesTenTo?`).
-/

namespace Entitlement.Json.Magnitude

/-- The number that a magnitude is. -/
def value (x : Magnitude) : ℚ := x.mantissa * (2 : ℚ) ^ x.exponent

/-- The mantissa has at most 53 bits, and the exponent is at most the largest one. -/
structure InRange (x : Magnitude) : Prop where
  mantissa_lt : x.mantissa < 2 ^ 53
  exponent_le : x.exponent ≤ 971

/-! ### Quotients -/

theorem pow_toNat_div (b : ℚ) (e : Int) :
  b ^ e.toNat / b ^ (-e).toNat = b ^ e
  := by
  rcases Int.le_total 0 e with he | he
  · have hneg : (-e).toNat = 0 := by omega
    have hcast : ((e.toNat : Int)) = e := Int.toNat_of_nonneg he
    rw [hneg, pow_zero, div_one, ← zpow_natCast, hcast]
  · have hneg : e.toNat = 0 := by omega
    have hcast : (((-e).toNat : Int)) = -e := by omega
    rw [hneg, pow_zero, ← zpow_natCast, hcast, zpow_neg, one_div, inv_inv]

/-- A magnitude is the quotient of its numerator and its denominator. -/
theorem numerator_div_denominator (x : Magnitude) :
  (x.numerator : ℚ) / x.denominator = x.value
  := by
  have hnum : (x.numerator : ℚ) = x.mantissa * 2 ^ x.exponent.toNat := by
    change ((x.mantissa * 2 ^ x.exponent.toNat : Nat) : ℚ) = _
    push_cast
    rfl
  have hden : (x.denominator : ℚ) = 2 ^ (-x.exponent).toNat := by
    change ((2 ^ (-x.exponent).toNat : Nat) : ℚ) = _
    push_cast
    rfl
  rw [hnum, hden, value, mul_div_assoc, pow_toNat_div]

theorem denominator_pos (x : Magnitude) :
  0 < x.denominator
  := Nat.pow_pos Nat.two_pos

theorem descale_pos (num : Nat) {den : Nat} (hden : 0 < den) (e : Int) :
  0 < (descale num den e).2
  := Nat.mul_pos hden (Nat.pow_pos Nat.two_pos)

theorem descale_eq {num den : Nat} (e : Int) :
  ((descale num den e).1 : ℚ) / (descale num den e).2 = num / den / 2 ^ e
  := by
  have hnum : ((descale num den e).1 : ℚ) = num * 2 ^ (-e).toNat := by
    change ((num * 2 ^ (-e).toNat : Nat) : ℚ) = _
    push_cast
    rfl
  have hden : ((descale num den e).2 : ℚ) = den * 2 ^ e.toNat := by
    change ((den * 2 ^ e.toNat : Nat) : ℚ) = _
    push_cast
    rfl
  rw [hnum, hden, ← pow_toNat_div, mul_div_mul_comm, div_div_eq_mul_div, mul_div_assoc]

theorem nearest_bounds (num : Nat) {den : Nat} (hden : 0 < den) :
  2 * (nearest num den * den) ≤ 2 * num + den ∧ 2 * num ≤ 2 * (nearest num den * den) + den
  := by
  have hdiv := Nat.div_add_mod num den
  have hmod := Nat.mod_lt num hden
  have hsucc : (num / den + 1) * den = den * (num / den) + den := by
    rw [Nat.add_mul, Nat.one_mul, Nat.mul_comm]
  unfold nearest
  dsimp only
  split
  · rw [Nat.mul_comm (num / den)]
    omega
  · rw [hsucc]
    omega

theorem nearest_le (num : Nat) {den : Nat} (hden : 0 < den) :
  (nearest num den : ℚ) ≤ num / den + 1 / 2
  := by
  have hden' : (0 : ℚ) < den := by exact_mod_cast hden
  have h : (2 * (nearest num den * den) : ℚ) ≤ 2 * num + den := by
    exact_mod_cast (nearest_bounds num hden).1
  rw [div_add' _ _ _ hden'.ne', le_div_iff₀ hden']
  linarith

theorem le_nearest (num : Nat) {den : Nat} (hden : 0 < den) :
  (num : ℚ) / den - 1 / 2 ≤ nearest num den
  := by
  have hden' : (0 : ℚ) < den := by exact_mod_cast hden
  have h : (2 * num : ℚ) ≤ 2 * (nearest num den * den) + den := by
    exact_mod_cast (nearest_bounds num hden).2
  rw [div_sub' hden'.ne', div_le_iff₀ hden']
  linarith

/-! ### The exponent of a quotient -/

theorem zpow_two_pos (e : Int) :
  (0 : ℚ) < 2 ^ e
  := zpow_pos two_pos e

/-- A positive quotient lies between the powers of two around the difference of the lengths
of its parts. -/
theorem quotient_bounds {num den : Nat} (hnum : num ≠ 0) (hden : den ≠ 0) :
  (2 : ℚ) ^ ((num.log2 : Int) - den.log2 - 1) < num / den ∧
    (num : ℚ) / den < 2 ^ ((num.log2 : Int) - den.log2 + 1)
  := by
  have hden' : (0 : ℚ) < den := by exact_mod_cast Nat.pos_of_ne_zero hden
  have hnumLow : (2 : ℚ) ^ (num.log2 : Int) ≤ num := by
    rw [zpow_natCast]
    exact_mod_cast Nat.log2_self_le hnum
  have hnumHigh : (num : ℚ) < 2 ^ ((num.log2 : Int) + 1) := by
    have h := Nat.lt_log2_self (n := num)
    have hcast : ((num.log2 : Int) + 1) = ((num.log2 + 1 : Nat) : Int) := by push_cast; rfl
    rw [hcast, zpow_natCast]
    exact_mod_cast h
  have hdenLow : (2 : ℚ) ^ (den.log2 : Int) ≤ den := by
    rw [zpow_natCast]
    exact_mod_cast Nat.log2_self_le hden
  have hdenHigh : (den : ℚ) < 2 ^ ((den.log2 : Int) + 1) := by
    have h := Nat.lt_log2_self (n := den)
    have hcast : ((den.log2 : Int) + 1) = ((den.log2 + 1 : Nat) : Int) := by push_cast; rfl
    rw [hcast, zpow_natCast]
    exact_mod_cast h
  constructor
  · rw [lt_div_iff₀ hden']
    calc (2 : ℚ) ^ ((num.log2 : Int) - den.log2 - 1) * den
        < 2 ^ ((num.log2 : Int) - den.log2 - 1) * 2 ^ ((den.log2 : Int) + 1) :=
          mul_lt_mul_of_pos_left hdenHigh (zpow_two_pos _)
      _ = 2 ^ (num.log2 : Int) := by
          rw [← zpow_add₀ two_ne_zero]
          congr 1
          omega
      _ ≤ num := hnumLow
  · rw [div_lt_iff₀ hden']
    calc (num : ℚ) < 2 ^ ((num.log2 : Int) + 1) := hnumHigh
      _ = 2 ^ ((num.log2 : Int) - den.log2 + 1) * 2 ^ (den.log2 : Int) := by
          rw [← zpow_add₀ two_ne_zero]
          congr 1
          omega
      _ ≤ 2 ^ ((num.log2 : Int) - den.log2 + 1) * den :=
          mul_le_mul_of_nonneg_left hdenLow (zpow_two_pos _).le

/-- With the exponent of a quotient the mantissa has 53 bits, or fewer if the exponent is the
least one. -/
theorem exponentOf_bounds {num den : Nat} (hnum : num ≠ 0) (hden : den ≠ 0) :
  -1074 ≤ exponentOf num den ∧ (num : ℚ) / den < 2 ^ (53 : Int) * 2 ^ exponentOf num den ∧
    (-1074 < exponentOf num den → (2 : ℚ) ^ (52 : Int) * 2 ^ exponentOf num den ≤ num / den)
  := by
  obtain ⟨hlow, hhigh⟩ := quotient_bounds hnum hden
  obtain ⟨e, he⟩ : ∃ e : Int, (num.log2 : Int) - den.log2 - 53 = e := ⟨_, rfl⟩
  have hlow' : (2 : ℚ) ^ (52 + e) < num / den := by
    have heq : 52 + e = (num.log2 : Int) - den.log2 - 1 := by omega
    rwa [heq]
  have hhigh' : (num : ℚ) / den < 2 ^ (54 + e) := by
    have heq : 54 + e = (num.log2 : Int) - den.log2 + 1 := by omega
    rwa [heq]
  have hpos := descale_pos num (Nat.pos_of_ne_zero hden) e
  have hsmall : (descale num den e).1 / (descale num den e).2 < 2 ^ 53 ↔
      (num : ℚ) / den < 2 ^ (53 + e) := by
    have hpos' : (0 : ℚ) < (descale num den e).2 := by exact_mod_cast hpos
    rw [Nat.div_lt_iff_lt_mul hpos, zpow_add₀ two_ne_zero, ← div_lt_iff₀ (zpow_two_pos e),
      ← descale_eq, div_lt_iff₀ hpos']
    norm_cast
  -- The exponent before the least one is taken into account.
  obtain ⟨e', he', hlow₁, hhigh₁⟩ : ∃ e' : Int, exponentOf num den = max (-1074) e' ∧
      (2 : ℚ) ^ (52 + e') ≤ num / den ∧ (num : ℚ) / den < 2 ^ (53 + e') := by
    by_cases hfit : (descale num den e).1 / (descale num den e).2 < 2 ^ 53
    · use e
      constructor
      · unfold exponentOf
        dsimp only
        rw [he]
        exact congrArg _ (if_pos hfit)
      · use hlow'.le, hsmall.1 hfit
    · use e + 1
      constructor
      · unfold exponentOf
        dsimp only
        rw [he]
        exact congrArg _ (if_neg hfit)
      · have hge := not_lt.1 (mt hsmall.2 hfit)
        have h52 : 52 + (e + 1) = 53 + e := by omega
        have h53 : 53 + (e + 1) = 54 + e := by omega
        rw [h52, h53]
        use hge
  rw [he', ← zpow_add₀ two_ne_zero, ← zpow_add₀ two_ne_zero]
  use le_max_left _ _
  constructor
  · apply lt_of_lt_of_le hhigh₁
    apply zpow_le_zpow_right₀ one_le_two
    have := le_max_right (-1074) e'
    omega
  · intro hlt
    have hmax : max (-1074) e' = e' := by omega
    rwa [hmax]

/-! ### Rounding -/

variable {num den : Nat} {x y : Magnitude}

theorem round?_zero (den : Nat) :
  round? 0 den = some zero
  := rfl

theorem inRange_zero :
  InRange zero
  := ⟨by decide, by decide⟩

/-- What rounding a positive quotient gives, before it is compared with the largest
magnitude. -/
theorem round?_of_ne_zero (hnum : num ≠ 0) (den : Nat) :
  ∃ (m : Nat) (z : Magnitude), m = nearest (descale num den (exponentOf num den)).1
      (descale num den (exponentOf num den)).2 ∧
    round? num den = (if z.exponent ≤ 971 then some z else none) ∧
    (m ≠ 2 ^ 53 ∧ z = ⟨m, exponentOf num den⟩ ∨
      m = 2 ^ 53 ∧ z = ⟨2 ^ 52, exponentOf num den + 1⟩)
  := by
  obtain ⟨m, hm⟩ : ∃ m, m = nearest (descale num den (exponentOf num den)).1
      (descale num den (exponentOf num den)).2 := ⟨_, rfl⟩
  have hround : round? num den =
      (if (if m = 2 ^ 53 then (⟨2 ^ 52, exponentOf num den + 1⟩ : Magnitude)
          else ⟨m, exponentOf num den⟩).exponent ≤ 971 then
        some (if m = 2 ^ 53 then ⟨2 ^ 52, exponentOf num den + 1⟩ else ⟨m, exponentOf num den⟩)
      else none) := by
    rw [hm]
    unfold round?
    exact if_neg hnum
  use m, if m = 2 ^ 53 then ⟨2 ^ 52, exponentOf num den + 1⟩ else ⟨m, exponentOf num den⟩, hm,
    hround
  by_cases h : m = 2 ^ 53
  · right
    use h
    exact if_pos h
  · left
    use h
    exact if_neg h

/-- Rounding changes a quotient by half a place at most. -/
theorem round?_bounds (hnum : num ≠ 0) (hden : den ≠ 0) (h : round? num den = some x) :
  x.InRange ∧ x.value ≤ num / den + 1 / 2 * 2 ^ exponentOf num den ∧
    (num : ℚ) / den - 1 / 2 * 2 ^ exponentOf num den ≤ x.value
  := by
  obtain ⟨m, z, hm, hround, hz⟩ := round?_of_ne_zero hnum den
  rw [h] at hround
  obtain ⟨-, hlt, -⟩ := exponentOf_bounds hnum hden
  obtain ⟨e, he⟩ : ∃ e, exponentOf num den = e := ⟨_, rfl⟩
  rw [he] at hm hz hlt ⊢
  have hpow := zpow_two_pos e
  have hpos := descale_pos num (Nat.pos_of_ne_zero hden) e
  have hle := nearest_le (descale num den e).1 hpos
  have hge := le_nearest (descale num den e).1 hpos
  rw [← hm, descale_eq] at hle hge
  have hscale : (num : ℚ) / den / 2 ^ e * 2 ^ e = num / den := div_mul_cancel₀ _ hpow.ne'
  have hmLe : (m : ℚ) * 2 ^ e ≤ num / den + 1 / 2 * 2 ^ e := by
    calc (m : ℚ) * 2 ^ e ≤ (num / den / 2 ^ e + 1 / 2) * 2 ^ e :=
          mul_le_mul_of_nonneg_right hle hpow.le
      _ = num / den + 1 / 2 * 2 ^ e := by rw [add_mul, hscale]
  have hmGe : (num : ℚ) / den - 1 / 2 * 2 ^ e ≤ m * 2 ^ e := by
    calc (num : ℚ) / den - 1 / 2 * 2 ^ e = (num / den / 2 ^ e - 1 / 2) * 2 ^ e := by
          rw [sub_mul, hscale]
      _ ≤ m * 2 ^ e := mul_le_mul_of_nonneg_right hge hpow.le
  split at hround
  · rename_i hexponent
    cases hround
    rcases hz with ⟨hne, rfl⟩ | ⟨hm53, rfl⟩
    · have hbits : (m : ℚ) < 2 ^ 53 + 1 := by
        have hq : (num : ℚ) / den / 2 ^ e < 2 ^ (53 : Int) := (div_lt_iff₀ hpow).2 hlt
        have h53 : (2 : ℚ) ^ (53 : Int) = 2 ^ 53 := by norm_cast
        rw [h53] at hq
        linarith
      have hbits' : m < 2 ^ 53 + 1 := by exact_mod_cast hbits
      use ⟨lt_of_le_of_ne (Nat.le_of_lt_succ hbits') hne, hexponent⟩, hmLe, hmGe
    · have hvalue : (⟨2 ^ 52, e + 1⟩ : Magnitude).value = m * 2 ^ e := by
        rw [value, zpow_add_one₀ two_ne_zero, hm53]
        push_cast
        ring
      rw [hvalue]
      use ⟨Nat.pow_lt_pow_right (by decide) (by decide), hexponent⟩, hmLe, hmGe
  · cases hround

/-- A quotient has a magnitude nearest to it, unless that would be the power of two after the
largest one. -/
theorem exists_round? (hden : den ≠ 0) (h : (num : ℚ) / den < (2 ^ 53 - 1 / 2) * 2 ^ (971 : Int)) :
  ∃ x, round? num den = some x
  := by
  by_cases hnum : num = 0
  · use zero
    rw [hnum, round?_zero]
  · obtain ⟨m, z, hm, hround, hz⟩ := round?_of_ne_zero hnum den
    obtain ⟨-, -, hge⟩ := exponentOf_bounds hnum hden
    obtain ⟨e, he⟩ : ∃ e, exponentOf num den = e := ⟨_, rfl⟩
    rw [he] at hm hz hge
    have hexponent : z.exponent ≤ 971 := by
      rcases lt_trichotomy e 971 with hlt | rfl | hgt
      · rcases hz with ⟨-, rfl⟩ | ⟨-, rfl⟩
        · apply hlt.le
        · apply hlt
      · rcases hz with ⟨-, rfl⟩ | ⟨hm53, -⟩
        · apply le_refl
        · have hpos := descale_pos num (Nat.pos_of_ne_zero hden) 971
          have hle := nearest_le (descale num den 971).1 hpos
          have hq : (num : ℚ) / den / 2 ^ (971 : Int) < 2 ^ 53 - 1 / 2 :=
            (div_lt_iff₀ (zpow_two_pos 971)).2 h
          rw [← hm, descale_eq, hm53] at hle
          generalize (num : ℚ) / den / 2 ^ (971 : Int) = q at hle hq
          push_cast at hle
          linarith
      · have hlow := hge (by omega)
        have hpow : (2 : ℚ) ^ (972 : Int) ≤ 2 ^ e := zpow_le_zpow_right₀ one_le_two (by omega)
        have hsplit : (2 : ℚ) ^ (972 : Int) = 2 ^ (971 : Int) * 2 := by
          rw [← zpow_add_one₀ two_ne_zero]
          rfl
        have h52 : (2 : ℚ) ^ (52 : Int) = 2 ^ 52 := by norm_cast
        have h971 := zpow_two_pos 971
        rw [h52] at hlow
        rw [hsplit] at hpow
        generalize (2 : ℚ) ^ (971 : Int) = top at h hpow h971
        linarith
    rw [if_pos hexponent] at hround
    use z

/-- A quotient that is at least one is rounded by a part in `2 ^ 53` at most. -/
theorem value_le_of_one_le (hone : (1 : ℚ) ≤ num / den) (h : round? num den = some x) :
  x.value ≤ num / den * (1 + 1 / 2 ^ 53) ∧ (num : ℚ) / den * (1 / 2) ≤ x.value
  := by
  have hnum : num ≠ 0 := by
    rintro rfl
    norm_num at hone
  have hden : den ≠ 0 := by
    rintro rfl
    norm_num at hone
  obtain ⟨-, hle, hge⟩ := round?_bounds hnum hden h
  obtain ⟨-, hlt, hlow⟩ := exponentOf_bounds hnum hden
  have hleast : -1074 < exponentOf num den := by
    by_contra hnot
    have hsmall : (2 : ℚ) ^ exponentOf num den ≤ 2 ^ (-53 : Int) :=
      zpow_le_zpow_right₀ one_le_two (by omega)
    have hprod : (2 : ℚ) ^ (53 : Int) * 2 ^ (-53 : Int) = 1 := by
      rw [← zpow_add₀ two_ne_zero]
      rfl
    have h53 := zpow_two_pos 53
    have hmul := mul_le_mul_of_nonneg_left hsmall h53.le
    linarith
  have hplace := hlow hleast
  have h52 : (2 : ℚ) ^ (52 : Int) = 2 ^ 52 := by norm_cast
  rw [h52] at hplace
  constructor
  · linarith
  · linarith

/-- Whatever is rounded gives no more than twice as much and one. -/
theorem value_le (hden : den ≠ 0) (h : round? num den = some x) :
  x.value ≤ 2 * (num / den) + 1
  := by
  by_cases hnum : num = 0
  · rw [hnum, round?_zero] at h
    cases h
    have hzero : zero.value = 0 := by norm_num [value, zero]
    rw [hzero]
    positivity
  · obtain ⟨-, hle, -⟩ := round?_bounds hnum hden h
    obtain ⟨-, -, hlow⟩ := exponentOf_bounds hnum hden
    have hq : (0 : ℚ) ≤ num / den := by positivity
    by_cases hleast : -1074 < exponentOf num den
    · have hplace := hlow hleast
      have h52 : (2 : ℚ) ^ (52 : Int) = 2 ^ 52 := by norm_cast
      rw [h52] at hplace
      linarith
    · have hsmall : (2 : ℚ) ^ exponentOf num den ≤ 2 ^ (0 : Int) :=
        zpow_le_zpow_right₀ one_le_two (by omega)
      rw [zpow_zero] at hsmall
      linarith

/-- What is rounded is in range. -/
theorem inRange_of_round? (hden : den ≠ 0) (h : round? num den = some x) :
  x.InRange
  := by
  by_cases hnum : num = 0
  · rw [hnum, round?_zero] at h
    cases h
    apply inRange_zero
  · apply (round?_bounds hnum hden h).1

/-! ### Powers of ten -/

/-- What lies below the power of two after the largest magnitude can be rounded. -/
theorem exists_round?_of_le (hden : den ≠ 0) (h : (num : ℚ) / den ≤ 2 ^ (971 : Int)) :
  ∃ x, round? num den = some x
  := by
  apply exists_round? hden
  have hpow := zpow_two_pos 971
  generalize (2 : ℚ) ^ (971 : Int) = top at h hpow
  linarith

/-- The largest of the powers of ten by which is multiplied, and the first one beyond. -/
theorem ten_pow_bounds :
  (2 : ℚ) * 10 ^ 308 < 18014398509481983 * 2 ^ (971 : Int) ∧
    (9007199254740992 : ℚ) * 2 ^ (971 : Int) < 10 ^ 309
  := by
  have hlow : 2 * 10 ^ 308 < 18014398509481983 * 2 ^ 971 := by decide +kernel
  have hhigh : 9007199254740992 * 2 ^ 971 < 10 ^ 309 := by decide +kernel
  have htop : (2 : ℚ) ^ (971 : Int) = ((2 ^ 971 : Nat) : ℚ) := by
    rw [Nat.cast_pow, Nat.cast_ofNat]
    apply zpow_natCast 2 971
  rw [htop]
  constructor
  · have h : ((2 * 10 ^ 308 : Nat) : ℚ) < ((18014398509481983 * 2 ^ 971 : Nat) : ℚ) :=
      Nat.cast_lt.2 hlow
    rw [Nat.cast_mul, Nat.cast_mul, Nat.cast_pow] at h
    apply h
  · have h : ((9007199254740992 * 2 ^ 971 : Nat) : ℚ) < ((10 ^ 309 : Nat) : ℚ) :=
      Nat.cast_lt.2 hhigh
    rw [Nat.cast_mul, Nat.cast_pow 10] at h
    apply h

/-- The powers of ten by which is multiplied. -/
theorem exists_power {k : Nat} (hk : k ≤ 308) :
  ∃ p, round? (Nat.pow 10 k) 1 = some p ∧ (10 : ℚ) ^ k * (1 / 2) ≤ p.value ∧
    p.value ≤ 10 ^ k * (1 + 1 / 2 ^ 53)
  := by
  have hcast : ((Nat.pow 10 k : Nat) : ℚ) / (1 : Nat) = 10 ^ k := by
    change (((10 ^ k : Nat) : ℚ)) / _ = _
    push_cast
    apply div_one
  have hbelow : ((Nat.pow 10 k : Nat) : ℚ) / (1 : Nat) < (2 ^ 53 - 1 / 2) * 2 ^ (971 : Int) := by
    have hmono : (10 : ℚ) ^ k ≤ 10 ^ 308 := pow_le_pow_right₀ (by norm_num) hk
    have hlast := ten_pow_bounds.1
    rw [hcast]
    generalize (2 : ℚ) ^ (971 : Int) = top at hlast ⊢
    generalize (10 : ℚ) ^ 308 = ten at hlast hmono
    linarith
  obtain ⟨p, hp⟩ := exists_round? one_ne_zero hbelow
  have hone : (1 : ℚ) ≤ ((Nat.pow 10 k : Nat) : ℚ) / (1 : Nat) := by
    rw [hcast]
    apply one_le_pow₀
    norm_num
  obtain ⟨hle, hge⟩ := value_le_of_one_le hone hp
  rw [hcast] at hle hge
  use p, hp, hge

theorem power_pos {k : Nat} (hk : k ≤ 308) {p : Magnitude}
    (hp : round? (Nat.pow 10 k) 1 = some p) :
  0 < p.value
  := by
  obtain ⟨p', hp', hge, -⟩ := exists_power hk
  cases hp.symm.trans hp'
  have hten : (0 : ℚ) < 10 ^ k * (1 / 2) := by positivity
  linarith

theorem value_nonneg (x : Magnitude) :
  0 ≤ x.value
  := by
  rw [value]
  positivity

theorem mul_value (x y : Magnitude) :
  ((x.numerator * y.numerator : Nat) : ℚ) / (x.denominator * y.denominator : Nat) =
    x.value * y.value
  := by
  push_cast
  rw [mul_div_mul_comm, numerator_div_denominator, numerator_div_denominator]

theorem div_value (x y : Magnitude) :
  ((x.numerator * y.denominator : Nat) : ℚ) / (x.denominator * y.numerator : Nat) =
    x.value / y.value
  := by
  push_cast
  rw [mul_div_mul_comm, numerator_div_denominator, ← inv_div (y.numerator : ℚ),
    numerator_div_denominator, div_eq_mul_inv]

theorem mul_denominator_ne_zero (x y : Magnitude) :
  x.denominator * y.denominator ≠ 0
  := Nat.mul_ne_zero x.denominator_pos.ne' y.denominator_pos.ne'

theorem numerator_ne_zero (hx : 0 < x.value) :
  x.numerator ≠ 0
  := by
  intro h
  rw [← numerator_div_denominator, h] at hx
  norm_num at hx

/-- A number that is not too large can be divided by a power of ten. -/
theorem exists_div? {k : Nat} (hk : k ≤ 308) (hx : x.value ≤ 2 ^ (970 : Int)) :
  ∃ p y, round? (Nat.pow 10 k) 1 = some p ∧ x.div? p = some y ∧
    y.value ≤ 4 * (x.value / 10 ^ k) + 1
  := by
  obtain ⟨p, hp, hge, -⟩ := exists_power hk
  have hten : (1 : ℚ) ≤ 10 ^ k := by
    apply one_le_pow₀
    norm_num
  have hpos := power_pos hk hp
  have hden : x.denominator * p.numerator ≠ 0 :=
    Nat.mul_ne_zero x.denominator_pos.ne' (numerator_ne_zero hpos)
  have hquotient : x.value / p.value ≤ 2 * (x.value / 10 ^ k) := by
    rw [div_le_iff₀ hpos]
    calc x.value = 2 * (x.value / 10 ^ k) * (10 ^ k * (1 / 2)) := by field_simp
      _ ≤ 2 * (x.value / 10 ^ k) * p.value :=
        mul_le_mul_of_nonneg_left hge (by
          have := x.value_nonneg
          positivity)
  have hsmaller : x.value / 10 ^ k ≤ x.value := div_le_self x.value_nonneg hten
  have htop : (2 : ℚ) ^ (971 : Int) = 2 ^ (970 : Int) * 2 := by
    rw [← zpow_add_one₀ two_ne_zero]
    rfl
  have hbelow : ((x.numerator * p.denominator : Nat) : ℚ) / (x.denominator * p.numerator : Nat) ≤
      2 ^ (971 : Int) := by
    rw [div_value, htop]
    generalize (2 : ℚ) ^ (970 : Int) = top at hx ⊢
    linarith
  obtain ⟨y, hy⟩ := exists_round?_of_le hden hbelow
  use p, y, hp, hy
  have hle := value_le hden hy
  rw [div_value] at hle
  linarith

theorem timesTenTo?_zero (e : Int) :
  zero.timesTenTo? e = some zero
  := by
  unfold timesTenTo?
  split
  · rename_i hrange
    obtain ⟨p, hp, -⟩ := exists_power (k := e.natAbs) (by omega)
    have hmul : zero.mul? p = some zero := by
      rw [mul?, numerator, zero, Nat.zero_mul, Nat.zero_mul]
      apply round?_zero
    have hdiv : zero.div? p = some zero := by
      rw [div?, numerator, zero, Nat.zero_mul, Nat.zero_mul]
      apply round?_zero
    rw [hp, Option.bind_eq_bind, Option.bind_some, hmul, hdiv, ite_self]
  · rfl

/-- An exponent below the least one is reached in steps. -/
theorem timesTenTo?_of_lt {e : Int} (he : e < -308) (hx : x.mantissa ≠ 0) {k : Nat}
    (hk : k = 308) {p : Magnitude} (hp : round? (Nat.pow 10 k) 1 = some p)
    (hy : x.div? p = some y) :
  x.timesTenTo? e = y.timesTenTo? (e + 308)
  := by
  rw [timesTenTo?, if_neg (by omega), if_neg hx, if_neg (by omega), ← hk, hp,
    Option.bind_eq_bind, Option.bind_some, hy]
  rfl

/-- A number that is not too large can be divided by any power of ten. -/
theorem exists_timesTenTo?_of_neg {e : Int} (he : e < 0) (hx : x.value ≤ 2 ^ (970 : Int)) :
  ∃ y, x.timesTenTo? e = some y
  := by
  induction hsteps : (-e).toNat using Nat.strongRecOn generalizing e x with
  | _ n ih =>
    by_cases hrange : -308 ≤ e
    · obtain ⟨p, y, hp, hy, -⟩ := exists_div? (k := e.natAbs) (by omega) hx
      use y
      rw [timesTenTo?, if_pos (by omega), hp, Option.bind_eq_bind, Option.bind_some,
        if_neg (by omega), hy]
    · by_cases hzero : x.mantissa = 0
      · use zero
        rw [timesTenTo?, if_neg (by omega), if_pos hzero]
      · -- The power of ten stays a power, for it is not to be multiplied out.
        obtain ⟨k, hk⟩ : ∃ k, k = 308 := ⟨_, rfl⟩
        obtain ⟨p, y, hp, hy, hle⟩ := exists_div? hk.le hx
        rw [timesTenTo?_of_lt (by omega) hzero hk hp hy]
        apply ih (-(e + 308)).toNat _ _ _ rfl
        · omega
        · omega
        · have hten : (10 : ℚ) ^ 2 ≤ 10 ^ k := pow_le_pow_right₀ (by norm_num) (by omega)
          have hsmaller : x.value / 10 ^ k ≤ x.value / 10 ^ 2 :=
            div_le_div_of_nonneg_left x.value_nonneg (by norm_num) hten
          have htop : (2 : ℚ) ^ (1 : Int) ≤ 2 ^ (970 : Int) :=
            zpow_le_zpow_right₀ one_le_two (by decide)
          generalize (2 : ℚ) ^ (970 : Int) = top at hx htop ⊢
          rw [zpow_one] at htop
          linarith

/-- A number of a word times a power of ten has a magnitude, when it stays below the power of
two after the largest magnitude by three and a half places. -/
theorem exists_timesTenTo? {n : Nat} {e : Int} (hn : n < UInt64.size)
    (h : (n : ℚ) * 10 ^ e ≤ (2 ^ 53 - 7 / 2) * 2 ^ (971 : Int)) :
  ∃ x y, round? n 1 = some x ∧ x.timesTenTo? e = some y
  := by
  by_cases hzero : n = 0
  · use zero, zero
    rw [hzero, round?_zero]
    use rfl
    apply timesTenTo?_zero
  · have hone : (1 : ℚ) ≤ (n : ℚ) / (1 : Nat) := by
      rw [Nat.cast_one, div_one]
      exact_mod_cast Nat.pos_of_ne_zero hzero
    have hword : (n : ℚ) ≤ 2 ^ (64 : Int) := by
      have : ((n : Nat) : ℚ) ≤ ((2 ^ 64 : Nat) : ℚ) := by exact_mod_cast hn.le
      rw [Nat.cast_pow] at this
      exact_mod_cast this
    have hmono : (2 : ℚ) ^ (64 : Int) ≤ 2 ^ (969 : Int) :=
      zpow_le_zpow_right₀ one_le_two (by decide)
    have hbelow : (n : ℚ) / (1 : Nat) ≤ 2 ^ (971 : Int) := by
      rw [Nat.cast_one, div_one]
      apply (hword.trans hmono).trans
      apply zpow_le_zpow_right₀ one_le_two (by decide)
    obtain ⟨x, hx⟩ := exists_round?_of_le one_ne_zero hbelow
    have hvalue := (value_le_of_one_le hone hx).1
    rw [Nat.cast_one, div_one] at hvalue hone
    by_cases hsign : e < 0
    · have hlimit : x.value ≤ 2 ^ (970 : Int) := by
        have htop : (2 : ℚ) ^ (970 : Int) = 2 ^ (969 : Int) * 2 := by
          rw [← zpow_add_one₀ two_ne_zero]
          rfl
        have hn' := hword.trans hmono
        rw [htop]
        generalize (2 : ℚ) ^ (969 : Int) = top at hn' ⊢
        linarith
      obtain ⟨y, hy⟩ := exists_timesTenTo?_of_neg hsign hlimit
      use x, y
    · have hlimit := ten_pow_bounds.2
      obtain ⟨k, rfl⟩ : ∃ k : Nat, e = k := ⟨e.toNat, by omega⟩
      rw [zpow_natCast] at h
      have hpos := zpow_two_pos 971
      -- A number that is not zero would be too large with a larger exponent.
      have hk : k ≤ 308 := by
        by_contra hlarge
        have hmono : (10 : ℚ) ^ 309 ≤ 10 ^ k := pow_le_pow_right₀ (by norm_num) (by omega)
        have hmul : (10 : ℚ) ^ k ≤ n * 10 ^ k := le_mul_of_one_le_left (by positivity) hone
        generalize (2 : ℚ) ^ (971 : Int) = top at h hlimit hpos
        generalize (10 : ℚ) ^ 309 = ten at hlimit hmono
        linarith
      obtain ⟨p, hp, -, hle⟩ := exists_power hk
      have hproduct : ((x.numerator * p.numerator : Nat) : ℚ) /
          (x.denominator * p.denominator : Nat) < (2 ^ 53 - 1 / 2) * 2 ^ (971 : Int) := by
        rw [mul_value]
        calc x.value * p.value ≤ n * (1 + 1 / 2 ^ 53) * (10 ^ k * (1 + 1 / 2 ^ 53)) :=
              mul_le_mul hvalue hle p.value_nonneg (by positivity)
          _ = n * 10 ^ k * ((1 + 1 / 2 ^ 53) * (1 + 1 / 2 ^ 53)) := by ring
          _ ≤ (2 ^ 53 - 7 / 2) * 2 ^ (971 : Int) * ((1 + 1 / 2 ^ 53) * (1 + 1 / 2 ^ 53)) :=
              mul_le_mul_of_nonneg_right h (by positivity)
          _ < (2 ^ 53 - 1 / 2) * 2 ^ (971 : Int) := by
              generalize (2 : ℚ) ^ (971 : Int) = top at hpos ⊢
              linarith
      obtain ⟨y, hy⟩ := exists_round? (mul_denominator_ne_zero x p) hproduct
      use x, y, hx
      rw [timesTenTo?, if_pos (by omega), Int.natAbs_natCast, hp, Option.bind_eq_bind,
        Option.bind_some, if_pos (Int.natCast_nonneg k)]
      apply hy

/-- What is multiplied by a power of ten is in range. -/
theorem inRange_timesTenTo? {e : Int} (h : x.timesTenTo? e = some y) :
  y.InRange
  := by
  have hdiv {k : Nat} (hk : k ≤ 308) {x p z : Magnitude} (hp : round? (Nat.pow 10 k) 1 = some p)
      (hz : x.div? p = some z) : z.InRange :=
    inRange_of_round? (Nat.mul_ne_zero x.denominator_pos.ne'
      (numerator_ne_zero (power_pos hk hp))) hz
  induction hsteps : (-e).toNat using Nat.strongRecOn generalizing e x with
  | _ n ih =>
    unfold timesTenTo? at h
    split at h
    · rename_i hrange
      obtain ⟨p, hp, hy⟩ := Option.bind_eq_some_iff.1 h
      split at hy
      · apply inRange_of_round? (mul_denominator_ne_zero x p) hy
      · apply hdiv _ hp hy
        omega
    · split at h
      · cases h
        apply inRange_zero
      · split at h
        · cases h
        · obtain ⟨p, hp, h₁⟩ := Option.bind_eq_some_iff.1 h
          obtain ⟨z, hz, hy⟩ := Option.bind_eq_some_iff.1 h₁
          apply ih _ _ hy rfl
          omega

end Entitlement.Json.Magnitude
