import Entitlement.Proofs.Json.Double
import Entitlement.Proofs.Json.Number

/-!
# Doubles are read as doubles

The text of a double is a numeral, which need not be read as that very double, for its digits
and the power of ten behind them are rounded one after the other. But it is read as some
double (`Json.Number.InRange.isReadable`): the decimal that is written lies nearest to the
double, so it stays so far below the power of two after the largest magnitude that rounding
does not reach it, and for the three largest magnitudes this is checked. Whatever has been
read is a number of this kind (`Json.Number.inRange_of_read?`).
-/

namespace Entitlement.Json

/-- The number that a decimal is. -/
def Decimal.value (d : Decimal) : ℚ := d.digits * (10 : ℚ) ^ d.exponent

/-! ### The decimal that is written -/

namespace Magnitude

theorem quarters_pos (x : Magnitude) (n : Nat) (k : Int) :
  0 < (x.quarters n k).2
  := Nat.mul_pos (Nat.pow_pos Nat.two_pos) (Nat.pow_pos (by decide))

theorem quarters_eq (x : Magnitude) (n : Nat) (k : Int) :
  ((x.quarters n k).1 : ℚ) / (x.quarters n k).2 = n * 2 ^ (x.exponent - 2) / 10 ^ k
  := by
  have hneg : 2 - x.exponent = -(x.exponent - 2) := by omega
  have hnum : ((x.quarters n k).1 : ℚ) = n * 2 ^ (x.exponent - 2).toNat * 10 ^ (-k).toNat := by
    change ((n * 2 ^ (x.exponent - 2).toNat * 10 ^ (-k).toNat : Nat) : ℚ) = _
    push_cast
    rfl
  have hden : ((x.quarters n k).2 : ℚ) = 2 ^ (-(x.exponent - 2)).toNat * 10 ^ k.toNat := by
    change ((2 ^ (2 - x.exponent).toNat * 10 ^ k.toNat : Nat) : ℚ) = _
    rw [hneg]
    push_cast
    rfl
  rw [hnum, hden, mul_div_mul_comm, mul_div_assoc, pow_toNat_div, ← inv_div ((10 : ℚ) ^ k.toNat),
    pow_toNat_div, div_eq_mul_inv]

/-- A decimal that is nearest to a magnitude is positive, and at most half a place above. -/
theorem bounds_of_isNearestTo {x : Magnitude} {k : Int} {d : Nat} (hx : 0 < x.mantissa)
    (h : x.isNearestTo k d = true) :
  0 < d ∧ (⟨d, k⟩ : Decimal).value ≤ (x.mantissa + 1 / 2) * 2 ^ x.exponent
  := by
  obtain ⟨below, hbelow, hlow, hhigh⟩ : ∃ below ≤ 2,
      (x.quarters (4 * x.mantissa - below) k).1 ≤ d * (x.quarters (4 * x.mantissa + 2) k).2 ∧
      d * (x.quarters (4 * x.mantissa + 2) k).2 ≤ (x.quarters (4 * x.mantissa + 2) k).1 := by
    use if x.mantissa = Nat.pow 2 52 ∧ -1074 < x.exponent then 1 else 2
    constructor
    · split <;> decide
    · unfold isNearestTo at h
      dsimp only at h
      split at h
      · rw [Bool.and_eq_true, decide_eq_true_eq, decide_eq_true_eq] at h
        apply h
      · rw [Bool.and_eq_true, decide_eq_true_eq, decide_eq_true_eq] at h
        exact ⟨h.1.le, h.2.le⟩
  constructor
  · apply Nat.pos_of_ne_zero
    rintro rfl
    rw [Nat.zero_mul, Nat.le_zero] at hlow
    have hpos : 0 < (x.quarters (4 * x.mantissa - below) k).1 :=
      Nat.mul_pos (Nat.mul_pos (by omega) (Nat.pow_pos Nat.two_pos)) (Nat.pow_pos (by decide))
    omega
  · have hden : (0 : ℚ) < (x.quarters (4 * x.mantissa + 2) k).2 := by
      exact_mod_cast x.quarters_pos _ k
    have hten : (0 : ℚ) < 10 ^ k := by positivity
    have hfour : (2 : ℚ) ^ x.exponent = 2 ^ (x.exponent - 2) * 4 := by
      have hsum : x.exponent = x.exponent - 2 + 2 := by omega
      nth_rewrite 1 [hsum]
      rw [zpow_add₀ two_ne_zero]
      norm_num
    have hhigh' : (d : ℚ) * (x.quarters (4 * x.mantissa + 2) k).2 ≤
        (x.quarters (4 * x.mantissa + 2) k).1 := by exact_mod_cast hhigh
    rw [← le_div_iff₀ hden, quarters_eq, le_div_iff₀ hten] at hhigh'
    rw [Decimal.value, hfour]
    push_cast at hhigh'
    linarith

theorem bounds_of_onGrid? {x : Magnitude} {k : Int} {d : Decimal} (hx : 0 < x.mantissa)
    (h : x.onGrid? k = some d) :
  0 < d.digits ∧ d.value ≤ (x.mantissa + 1 / 2) * 2 ^ x.exponent
  := by
  unfold onGrid? at h
  dsimp only at h
  split at h
  · rename_i hd hd'
    cases h
    split
    · apply bounds_of_isNearestTo hx hd
    · apply bounds_of_isNearestTo hx hd'
  · rename_i hd hd'
    cases h
    apply bounds_of_isNearestTo hx hd
  · rename_i hd hd'
    cases h
    apply bounds_of_isNearestTo hx hd'
  · cases h

/-- Zeros at the end of a decimal do not matter. -/
theorem trimZeros_spec (fuel : Nat) {d : Decimal} (hd : 0 < d.digits) :
  0 < (trimZeros fuel d).digits ∧ (trimZeros fuel d).value = d.value
  := by
  induction fuel generalizing d with
  | zero => exact ⟨hd, rfl⟩
  | succ fuel ih =>
    unfold trimZeros
    split
    · rename_i hzero
      obtain ⟨n, hn⟩ : ∃ n, d.digits = 10 * n := ⟨d.digits / 10, by omega⟩
      obtain ⟨hpos, hvalue⟩ := ih (d := ⟨d.digits / 10, d.exponent + 1⟩) (by
        dsimp only
        omega)
      use hpos
      rw [hvalue, Decimal.value, Decimal.value, hn, zpow_add_one₀ (by norm_num)]
      rw [Nat.mul_div_cancel_left n (by decide)]
      push_cast
      ring
    · exact ⟨hd, rfl⟩

/-- The decimal that is written for a magnitude is positive, and at most half a place above
it. -/
theorem shortest_bounds {x : Magnitude} (hx : 0 < x.mantissa) :
  x.shortest = ⟨0, 17⟩ ∨
    0 < x.shortest.digits ∧ x.shortest.value ≤ (x.mantissa + 1 / 2) * 2 ^ x.exponent
  := by
  unfold shortest
  dsimp only
  cases hfound : (List.range 17).findSome? fun i : Nat =>
      x.onGrid? (leadingPlace x.numerator x.denominator - i) with
  | none =>
    left
    rfl
  | some d =>
    right
    obtain ⟨i, -, hd⟩ := List.exists_of_findSome?_eq_some hfound
    obtain ⟨hpos, hle⟩ := bounds_of_onGrid? hx hd
    obtain ⟨hpos', hvalue⟩ := trimZeros_spec 17 hpos
    rw [Option.getD_some, hvalue]
    use hpos'

end Magnitude

/-! ### Numerals -/

namespace Numeral

/-- The number that a numeral without its sign is. -/
def magnitude (t : Numeral) : ℚ :=
  ofDigits (t.whole ++ t.fraction) * (10 : ℚ) ^ (t.exponent.getD 0 - t.fraction.length)

theorem foldl_digits (n : Nat) (ds : List Nat) :
  ds.foldl (fun n d => 10 * n + d) n = n * 10 ^ ds.length + ofDigits ds
  := by
  induction ds generalizing n with
  | nil => simp [ofDigits]
  | cons d ds ih =>
    rw [ofDigits, List.foldl_cons, List.foldl_cons, ih, ih, List.length_cons]
    ring

theorem ofDigits_cons (d : Nat) (ds : List Nat) :
  ofDigits (d :: ds) = d * 10 ^ ds.length + ofDigits ds
  := by
  rw [ofDigits, List.foldl_cons, foldl_digits, Nat.mul_zero, Nat.zero_add]

theorem ofDigits_append (ds es : List Nat) :
  ofDigits (ds ++ es) = ofDigits ds * 10 ^ es.length + ofDigits es
  := by
  rw [ofDigits, List.foldl_append, foldl_digits]
  rfl

/-- What a number of digits can be is less than the power of ten with so many zeros. -/
theorem ofDigits_lt {cs : List Char} (h : ∀ c ∈ cs, c.isDigit = true) :
  ofDigits (digits cs) < 10 ^ cs.length
  := by
  rw [Number.digits_eq_map h]
  induction cs with
  | nil => decide
  | cons c cs ih =>
    obtain ⟨hc, hcs⟩ := List.forall_mem_cons.1 h
    have hdigit : c.toNat - 48 ≤ 9 := by
      have hnine : c.toNat ≤ 57 := (Char.isDigit_iff_toNat.1 hc).2
      omega
    have hrest := ih hcs
    have hmul : (c.toNat - 48) * 10 ^ cs.length ≤ 9 * 10 ^ cs.length :=
      Nat.mul_le_mul_right _ hdigit
    rw [List.map_cons, ofDigits_cons, List.length_map, List.length_cons, Nat.pow_succ]
    omega

section

variable {cs ds rest : List Char}

/-- The digits in front of a character that is none. -/
theorem digits_of_stop (rest : List Char) (hds : ∀ c ∈ ds, c.isDigit = true)
    (hrest : ∀ c, rest.head? = some c → c.isDigit = false) :
  digits (ds ++ rest) = digits ds ∧ afterDigits (ds ++ rest) = rest
  := by
  have hnone : rest.takeWhile Char.isDigit = [] ∧ rest.dropWhile Char.isDigit = rest := by
    cases rest with
    | nil => exact ⟨rfl, rfl⟩
    | cons c rest => simp [hrest c rfl]
  constructor
  · rw [digits, List.takeWhile_append_of_pos hds, hnone.1, List.append_nil, digits,
      List.takeWhile_eq_self_iff.2 hds]
  · rw [afterDigits, List.dropWhile_append_of_pos hds, hnone.2]

theorem digits_isEmpty (hds : ∀ c ∈ ds, c.isDigit = true) (hne : ds ≠ []) :
  (digits ds).isEmpty = false
  := by
  rw [Number.digits_eq_map hds, List.isEmpty_map]
  simpa using hne

theorem readWhole?_digits (rest : List Char) (hds : ∀ c ∈ ds, c.isDigit = true) (hne : ds ≠ [])
    (hzero : ds.head? = some '0' → ds = ['0'])
    (hrest : ∀ c, rest.head? = some c → c.isDigit = false) :
  readWhole? (ds ++ rest) = some (digits ds, rest)
  := by
  obtain ⟨hdigits, hafter⟩ := digits_of_stop rest hds hrest
  unfold readWhole?
  split
  · rename_i heq
    cases ds with
    | nil => cases hne rfl
    | cons c ds =>
      obtain ⟨rfl, h⟩ := List.cons.inj heq
      cases hzero rfl
      cases h
      rfl
  · rw [hdigits, hafter, digits_isEmpty hds hne]
    rfl

theorem readFraction?_digits (rest : List Char) (hds : ∀ c ∈ ds, c.isDigit = true) (hne : ds ≠ [])
    (hrest : ∀ c, rest.head? = some c → c.isDigit = false) :
  readFraction? ('.' :: (ds ++ rest)) = some (digits ds, rest)
  := by
  obtain ⟨hdigits, hafter⟩ := digits_of_stop rest hds hrest
  rw [readFraction?, hdigits, hafter, digits_isEmpty hds hne]
  rfl

/-- The exponent that is written for a place, with its sign. -/
theorem readExponent?_power (point : Int) :
  readExponent? ((if 0 < point then ['e', '+'] else ['e', '-']) ++
    Nat.toDigits 10 (point - 1).natAbs) = some (some (point - 1), [])
  := by
  have hdigit (c : Char) (hc : c ∈ Nat.toDigits 10 (point - 1).natAbs) : c.isDigit = true :=
    Number.isDigit_of_mem_toDigits hc
  obtain ⟨hdigits, hafter⟩ := digits_of_stop [] hdigit (by rintro _ ⟨⟩)
  rw [List.append_nil] at hafter
  have hpower (negative : Bool) : readPower? negative (Nat.toDigits 10 (point - 1).natAbs) =
      some (some (if negative then -((point - 1).natAbs : Int) else (point - 1).natAbs), []) := by
    rw [readPower?, digits_isEmpty hdigit Nat.toDigits_ne_nil, hafter, Number.ofDigits_toDigits]
    rfl
  split
  · change readPower? false (Nat.toDigits 10 (point - 1).natAbs) = _
    rw [hpower, if_neg Bool.false_ne_true]
    have hvalue : ((point - 1).natAbs : Int) = point - 1 := by omega
    rw [hvalue]
  · change readPower? true (Nat.toDigits 10 (point - 1).natAbs) = _
    rw [hpower, if_pos rfl]
    have hvalue : -((point - 1).natAbs : Int) = point - 1 := by omega
    rw [hvalue]

theorem readUnsigned?_of_parts {negative : Bool} {cs₁ cs₂ : List Char} {whole fraction : List Nat}
    {e : Option Int} (hwhole : readWhole? cs = some (whole, cs₁))
    (hfraction : readFraction? cs₁ = some (fraction, cs₂))
    (hexponent : readExponent? cs₂ = some (e, [])) :
  readUnsigned? negative cs = some (⟨negative, whole, fraction, e⟩, [])
  := by
  apply Option.bind_eq_some_iff.2
  use (whole, cs₁), hwhole
  apply Option.bind_eq_some_iff.2
  use (fraction, cs₂), hfraction
  apply Option.bind_eq_some_iff.2
  use (e, []), hexponent
  rfl

/-! ### What is spelled -/

/-- The text is that of a number, with a point or an exponent, and the digits before the point
fit a word. -/
def Spells (cs : List Char) (q : ℚ) : Prop :=
  ∀ negative, ∃ t, readUnsigned? negative cs = some (t, []) ∧ t.magnitude = q ∧
    ofDigits t.whole < UInt64.size ∧ (t.fraction ≠ [] ∨ t.exponent.isSome = true)

theorem length_digits (hds : ∀ c ∈ ds, c.isDigit = true) :
  (digits ds).length = ds.length
  := by
  rw [Number.digits_eq_map hds, List.length_map]

theorem digits_append_digits (hcs : ∀ c ∈ cs, c.isDigit = true)
    (hds : ∀ c ∈ ds, c.isDigit = true) :
  digits (cs ++ ds) = digits cs ++ digits ds
  := by
  rw [Number.digits_eq_map hcs, Number.digits_eq_map hds, ← List.map_append]
  apply Number.digits_eq_map
  intro c hc
  rcases List.mem_append.1 hc with hc | hc
  · apply hcs c hc
  · apply hds c hc

theorem isDigit_of_mem_zeros {k : Nat} {c : Char} (h : c ∈ List.replicate k '0') :
  c.isDigit = true
  := by
  rw [List.eq_of_mem_replicate h]
  rfl

theorem ofDigits_zeros (k : Nat) :
  ofDigits (digits (List.replicate k '0')) = 0
  := by
  rw [Number.digits_eq_map fun c => isDigit_of_mem_zeros]
  induction k with
  | zero => rfl
  | succ k ih =>
    rw [List.replicate_succ, List.map_cons, ofDigits_cons, ih]
    simp

theorem lt_word {n : Nat} (h : n < 10 ^ 16) :
  n < UInt64.size
  := by
  apply h.trans
  decide

/-- Digits and zeros with nothing behind the point. -/
theorem spells_whole (hds : ∀ c ∈ ds, c.isDigit = true) (hne : ds ≠ [])
    (hzero : ds.head? ≠ some '0') {k : Nat} (hk : ds.length + k ≤ 16) :
  Spells (ds ++ List.replicate k '0' ++ ['.', '0']) (ofDigits (digits ds) * (10 : ℚ) ^ (k : Int))
  := by
  have hall : ∀ c ∈ ds ++ List.replicate k '0', c.isDigit = true := by
    intro c hc
    rcases List.mem_append.1 hc with hc | hc
    · apply hds c hc
    · apply isDigit_of_mem_zeros hc
  have hvalue : ofDigits (digits (ds ++ List.replicate k '0')) =
      ofDigits (digits ds) * 10 ^ k := by
    rw [digits_append_digits hds fun c => isDigit_of_mem_zeros, ofDigits_append, ofDigits_zeros,
      length_digits fun c => isDigit_of_mem_zeros, List.length_replicate, Nat.add_zero]
  intro negative
  have hwhole := readWhole?_digits ['.', '0'] hall (by simpa using fun h => absurd h hne)
    (by
      intro h
      cases ds with
      | nil => cases hne rfl
      | cons c ds => cases hzero h)
    (by
      rintro _ ⟨⟩
      rfl)
  use ⟨negative, digits (ds ++ List.replicate k '0'), [0], none⟩
  use readUnsigned?_of_parts hwhole rfl rfl
  constructor
  · rw [magnitude, ofDigits_append, hvalue]
    push_cast
    rw [zpow_natCast]
    norm_num [ofDigits]
    ring
  · constructor
    · apply lt_word
      apply (ofDigits_lt hall).trans_le
      rw [List.length_append, List.length_replicate]
      apply Nat.pow_le_pow_right (by decide) hk
    · left
      rintro ⟨⟩

/-- Digits with a point between them. -/
theorem spells_pointed (hds : ∀ c ∈ ds, c.isDigit = true) (hzero : ds.head? ≠ some '0')
    {p : Nat} (hpos : 0 < p) (hp : p ≤ 16) (hlt : p < ds.length) :
  Spells (ds.take p ++ '.' :: ds.drop p)
    (ofDigits (digits ds) * (10 : ℚ) ^ ((p : Int) - ds.length))
  := by
  have hfront : ∀ c ∈ ds.take p, c.isDigit = true := fun c hc => hds c (List.mem_of_mem_take hc)
  have hback : ∀ c ∈ ds.drop p, c.isDigit = true := fun c hc => hds c (List.mem_of_mem_drop hc)
  have hwhole := readWhole?_digits ('.' :: ds.drop p) hfront
    (by
      intro h
      have := congrArg List.length h
      rw [List.length_take, List.length_nil] at this
      omega)
    (by
      intro h
      rw [List.head?_take, if_neg (by omega)] at h
      cases hzero h)
    (by
      rintro _ ⟨⟩
      rfl)
  have hbackNe : ds.drop p ≠ [] := by
    intro h
    have := congrArg List.length h
    rw [List.length_drop, List.length_nil] at this
    omega
  have hfraction := readFraction?_digits [] hback hbackNe (by rintro _ ⟨⟩)
  rw [List.append_nil] at hfraction
  intro negative
  use ⟨negative, digits (ds.take p), digits (ds.drop p), none⟩
  use readUnsigned?_of_parts hwhole hfraction rfl
  constructor
  · rw [magnitude, ← digits_append_digits hfront hback, List.take_append_drop,
      length_digits hback, List.length_drop, Option.getD_none, Nat.cast_sub hlt.le]
    congr 2
    omega
  · constructor
    · apply lt_word
      apply (ofDigits_lt hfront).trans_le
      apply Nat.pow_le_pow_right (by decide)
      rw [List.length_take]
      omega
    · left
      have := digits_isEmpty hback hbackNe
      simpa using this

/-- Zeros and digits behind the point. -/
theorem spells_small (hds : ∀ c ∈ ds, c.isDigit = true) (hne : ds ≠ []) (n : Nat) :
  Spells ('0' :: '.' :: List.replicate n '0' ++ ds)
    (ofDigits (digits ds) * (10 : ℚ) ^ (-(n : Int) - ds.length))
  := by
  have hall : ∀ c ∈ List.replicate n '0' ++ ds, c.isDigit = true := by
    intro c hc
    rcases List.mem_append.1 hc with hc | hc
    · apply isDigit_of_mem_zeros hc
    · apply hds c hc
  have hallNe : List.replicate n '0' ++ ds ≠ [] := by simpa using fun _ => hne
  have hfraction := readFraction?_digits [] hall hallNe (by rintro _ ⟨⟩)
  rw [List.append_nil] at hfraction
  intro negative
  use ⟨negative, [0], digits (List.replicate n '0' ++ ds), none⟩
  use readUnsigned?_of_parts rfl hfraction rfl
  constructor
  · have hvalue : ofDigits ([0] ++ digits (List.replicate n '0' ++ ds)) =
        ofDigits (digits ds) := by
      rw [digits_append_digits (fun c => isDigit_of_mem_zeros) hds, ofDigits_append,
        ofDigits_append, ofDigits_zeros]
      simp [ofDigits]
    rw [magnitude, hvalue, length_digits hall, List.length_append, List.length_replicate,
      Option.getD_none]
    congr 2
    push_cast
    omega
  · have hword : ofDigits [0] < UInt64.size := by decide
    constructor
    · apply hword
    · left
      have := digits_isEmpty hall hallNe
      simpa using this

/-- The text of an exponent begins with its letter. -/
theorem head?_power (point : Int) (cs : List Char) :
  ((if 0 < point then ['e', '+'] else ['e', '-']) ++ cs).head? = some 'e'
  := by
  split <;> rfl

/-- Digits with a point behind the first one, if there are more, and an exponent. -/
theorem spells_exponent (hds : ∀ c ∈ ds, c.isDigit = true) (hne : ds ≠ []) (point : Int) :
  Spells (ds.take 1 ++ (if (ds.drop 1).isEmpty then [] else '.' :: ds.drop 1) ++
      (if 0 < point then ['e', '+'] else ['e', '-']) ++ Nat.toDigits 10 (point - 1).natAbs)
    (ofDigits (digits ds) * (10 : ℚ) ^ (point - ds.length))
  := by
  cases ds with
  | nil => cases hne rfl
  | cons c ds =>
    obtain ⟨hc, hds⟩ := List.forall_mem_cons.1 hds
    have hfirst : ∀ d ∈ [c], d.isDigit = true := by simpa using hc
    have hdigits : digits (c :: ds) = digits [c] ++ digits ds := digits_append_digits hfirst hds
    have hword : ofDigits (digits [c]) < UInt64.size := by
      apply lt_word
      apply (ofDigits_lt hfirst).trans_le
      exact Nat.pow_le_pow_right (by decide) (Nat.succ_le_succ (Nat.zero_le _))
    obtain ⟨power, hpower⟩ : ∃ power, power = (if 0 < point then ['e', '+'] else ['e', '-']) ++
        Nat.toDigits 10 (point - 1).natAbs := ⟨_, rfl⟩
    have hexponent : readExponent? power = some (some (point - 1), []) := by
      rw [hpower, readExponent?_power]
    have hhead : power.head? = some 'e' := by
      rw [hpower, head?_power]
    have hstop : ∀ d, power.head? = some d → d.isDigit = false := by
      rw [hhead]
      rintro _ ⟨⟩
      rfl
    intro negative
    use ⟨negative, digits [c], digits ds, some (point - 1)⟩
    constructor
    · rw [List.append_assoc, ← hpower, List.take_one, List.drop_one, List.head?_cons,
        Option.toList_some, List.tail_cons, List.append_assoc]
      cases ds with
      | nil =>
        have hwhole := readWhole?_digits _ hfirst (by rintro ⟨⟩) (by
          rintro h
          rw [Option.some.inj h]) hstop
        apply readUnsigned?_of_parts hwhole _ hexponent
        apply readFraction?_of_ne
        rw [hhead]
        decide
      | cons d ds =>
        have hwhole := readWhole?_digits ('.' :: (d :: ds ++ power)) hfirst (by rintro ⟨⟩)
          (by
            rintro h
            rw [Option.some.inj h])
          (by
            rintro _ ⟨⟩
            rfl)
        have hfraction := readFraction?_digits _ hds (by rintro ⟨⟩) hstop
        apply readUnsigned?_of_parts hwhole hfraction hexponent
    · constructor
      · rw [magnitude, ← hdigits, length_digits hds, Option.getD_some, List.length_cons]
        congr 2
        push_cast
        omega
      · use hword
        right
        rfl

end

/-! ### The value of a numeral -/

/-- As many digits as fit a word, with zeros for the others, are no more than all digits. -/
theorem absorb_le {n : Nat} (hn : n < UInt64.size) (ds : List Nat) :
  (absorb n ds).1 * 10 ^ (absorb n ds).2.length ≤ n * 10 ^ ds.length + ofDigits ds ∧
    (absorb n ds).1 < UInt64.size
  := by
  induction ds generalizing n with
  | nil => exact ⟨Nat.le_add_right _ _, hn⟩
  | cons d ds ih =>
    have hcons : n * 10 ^ (d :: ds).length + ofDigits (d :: ds) =
        (10 * n + d) * 10 ^ ds.length + ofDigits ds := by
      rw [ofDigits_cons, List.length_cons]
      ring
    rw [absorb, hcons]
    split
    · rename_i hfit
      apply ih hfit
    · use by
        rw [← hcons]
        apply Nat.le_add_right

theorem absorb_of_lt (n : Nat) (ds : List Nat)
    (h : n * 10 ^ ds.length + ofDigits ds < UInt64.size) :
  absorb n ds = (n * 10 ^ ds.length + ofDigits ds, [])
  := by
  induction ds generalizing n with
  | nil => simp [absorb, ofDigits]
  | cons d ds ih =>
    have hcons : n * 10 ^ (d :: ds).length + ofDigits (d :: ds) =
        (10 * n + d) * 10 ^ ds.length + ofDigits ds := by
      rw [ofDigits_cons, List.length_cons]
      ring
    rw [hcons] at h ⊢
    have hfit : 10 * n + d < UInt64.size := by
      apply lt_of_le_of_lt _ h
      calc 10 * n + d ≤ (10 * n + d) * 10 ^ ds.length :=
            Nat.le_mul_of_pos_right _ (Nat.pow_pos (by decide))
        _ ≤ _ := Nat.le_add_right _ _
    rw [absorb, if_pos hfit, ih _ h]

/-- A numeral that stays below the largest magnitudes has a double. -/
theorem exists_double? {t : Numeral} (hwhole : ofDigits t.whole < UInt64.size)
    (h : t.magnitude ≤ (2 ^ 53 - 7 / 2) * 2 ^ (971 : Int)) :
  ∃ x, t.double? = some x
  := by
  have hall : absorb 0 t.whole = (ofDigits t.whole, []) := by
    have := absorb_of_lt 0 t.whole (by rwa [Nat.zero_mul, Nat.zero_add])
    rwa [Nat.zero_mul, Nat.zero_add] at this
  obtain ⟨n, ignored, habsorb⟩ : ∃ n ignored, absorb (ofDigits t.whole) t.fraction =
      (n, ignored) := ⟨_, _, rfl⟩
  have hle := absorb_le hwhole t.fraction
  rw [habsorb, ← ofDigits_append] at hle
  obtain ⟨hle, hn⟩ := hle
  have hbelow : (n : ℚ) * 10 ^ (-((t.fraction.length : Int) - ignored.length) +
      t.exponent.getD 0) ≤ (2 ^ 53 - 7 / 2) * 2 ^ (971 : Int) := by
    have hexponent : -((t.fraction.length : Int) - ignored.length) + t.exponent.getD 0 =
        ignored.length + (t.exponent.getD 0 - t.fraction.length) := by omega
    have hle' : (n : ℚ) * 10 ^ ignored.length ≤ ofDigits (t.whole ++ t.fraction) := by
      exact_mod_cast hle
    calc (n : ℚ) * 10 ^ (-((t.fraction.length : Int) - ignored.length) + t.exponent.getD 0)
        = n * 10 ^ ignored.length * 10 ^ (t.exponent.getD 0 - t.fraction.length) := by
          rw [hexponent, zpow_add₀ (by norm_num), zpow_natCast, mul_assoc]
      _ ≤ t.magnitude := mul_le_mul_of_nonneg_right hle' (by positivity)
      _ ≤ _ := h
  obtain ⟨x, y, hx, hy⟩ := Magnitude.exists_timesTenTo? hn hbelow
  use .double t.negative y
  have hplaces : (([] : List Nat).length : Int) - (t.fraction.length - ignored.length) +
      t.exponent.getD 0 = -((t.fraction.length : Int) - ignored.length) + t.exponent.getD 0 := by
    rw [List.length_nil]
    omega
  unfold double?
  rw [hall]
  dsimp only
  rw [habsorb]
  dsimp only
  rw [hplaces, hx, Option.bind_eq_bind, Option.bind_some, hy]
  rfl

theorem value?_of_point {t : Numeral} (h : t.fraction ≠ [] ∨ t.exponent.isSome = true) :
  t.value? = t.double?
  := by
  unfold value?
  exact if_pos h

theorem read?_of_readUnsigned? {cs : List Char} {r : Numeral × List Char}
    (h : readUnsigned? false cs = some r) :
  read? cs = some r
  := by
  obtain ⟨⟨whole, cs₁⟩, hwhole, -⟩ := Option.bind_eq_some_iff.1 h
  cases cs with
  | nil => cases hwhole
  | cons c cs =>
    by_cases hc : c = '-'
    · subst hc
      cases hwhole
    · rw [read?_of_ne hc, h]

end Numeral

/-! ### Texts of doubles -/

namespace Magnitude

/-- The text of a magnitude spells the decimal that is nearest to it. -/
theorem spells_text {x : Magnitude} (hx : 0 < x.mantissa) :
  Numeral.Spells x.text.toList x.shortest.value
  := by
  have hbounds := shortest_bounds hx
  rw [text, if_neg hx.ne', String.toList_ofList]
  obtain ⟨d, hd⟩ : ∃ d, x.shortest = d := ⟨_, rfl⟩
  rw [hd] at hbounds ⊢
  have hds (c : Char) (hc : c ∈ Nat.toDigits 10 d.digits) : c.isDigit = true :=
    Number.isDigit_of_mem_toDigits hc
  have hne : Nat.toDigits 10 d.digits ≠ [] := Nat.toDigits_ne_nil
  have hdigits := Number.ofDigits_toDigits d.digits
  have hzero (hpos : 0 < d.digits) : (Nat.toDigits 10 d.digits).head? ≠ some '0' := by
    intro hhead
    obtain ⟨cs, hcs⟩ := List.head?_eq_some_iff.1 hhead
    have := (Number.toDigits_eq_zero_cons hcs).1
    omega
  -- A decimal with a zero has an exponent.
  have hpositive (h : (Nat.toDigits 10 d.digits).length + d.exponent ≤ 16) : 0 < d.digits := by
    rcases hbounds with rfl | ⟨hpos, -⟩
    · dsimp only at h
      omega
    · apply hpos
  obtain ⟨ds, hdsEq⟩ : ∃ ds, Nat.toDigits 10 d.digits = ds := ⟨_, rfl⟩
  rw [hdsEq] at hds hne hdigits hzero hpositive ⊢
  rw [Decimal.value, ← hdigits]
  split
  · rename_i h
    have hspells := Numeral.spells_whole hds hne (hzero (hpositive h.2))
      (k := d.exponent.toNat) (by omega)
    rwa [Int.toNat_of_nonneg h.1] at hspells
  · split
    · rename_i hnot h
      have hspells := Numeral.spells_pointed hds (hzero (hpositive h.2))
        (p := (ds.length + d.exponent).toNat) (by omega) (by omega) (by omega)
      have hexponent : ((ds.length + d.exponent).toNat : Int) - ds.length = d.exponent := by omega
      rwa [hexponent] at hspells
    · split
      · rename_i h
        have hspells := Numeral.spells_small hds hne (-(ds.length + d.exponent)).toNat
        have hexponent : -((-(ds.length + d.exponent)).toNat : Int) - ds.length =
            d.exponent := by omega
        rwa [hexponent] at hspells
      · have hspells := Numeral.spells_exponent hds hne (ds.length + d.exponent)
        have hexponent : (ds.length + d.exponent : Int) - ds.length = d.exponent := by omega
        rwa [hexponent] at hspells

/-- The decimal that is written stays far enough below the power of two after the largest
magnitude, except for the last three magnitudes. -/
theorem shortest_le {x : Magnitude} (hx : 0 < x.mantissa) (hrange : x.InRange)
    (h : x.mantissa < 2 ^ 53 - 3 ∨ x.exponent < 971) :
  x.shortest.value ≤ (2 ^ 53 - 7 / 2) * 2 ^ (971 : Int)
  := by
  have hpos := zpow_two_pos 971
  rcases shortest_bounds hx with hnone | ⟨-, hle⟩
  · rw [hnone, Decimal.value, Nat.cast_zero, zero_mul]
    generalize (2 : ℚ) ^ (971 : Int) = top at hpos ⊢
    linarith
  · apply hle.trans
    rcases h with hmantissa | hexponent
    · have hm : (x.mantissa : ℚ) ≤ 2 ^ 53 - 4 := by
        have : x.mantissa + 4 ≤ 2 ^ 53 := by omega
        have : ((x.mantissa + 4 : Nat) : ℚ) ≤ ((2 ^ 53 : Nat) : ℚ) := Nat.cast_le.2 this
        push_cast at this
        linarith
      have hscale : (2 : ℚ) ^ x.exponent ≤ 2 ^ (971 : Int) :=
        zpow_le_zpow_right₀ one_le_two hrange.exponent_le
      apply mul_le_mul _ hscale (zpow_two_pos _).le (by norm_num)
      linarith
    · have hm : (x.mantissa : ℚ) ≤ 2 ^ 53 := by
        have : ((x.mantissa : Nat) : ℚ) ≤ ((2 ^ 53 : Nat) : ℚ) :=
          Nat.cast_le.2 hrange.mantissa_lt.le
        push_cast at this
        linarith
      have hscale : (2 : ℚ) ^ x.exponent ≤ 2 ^ (970 : Int) :=
        zpow_le_zpow_right₀ one_le_two (by omega)
      have htop : (2 : ℚ) ^ (971 : Int) = 2 ^ (970 : Int) * 2 := by
        rw [← zpow_add_one₀ two_ne_zero]
        rfl
      have hlow := zpow_two_pos 970
      calc ((x.mantissa : ℚ) + 1 / 2) * 2 ^ x.exponent ≤ (2 ^ 53 + 1 / 2) * 2 ^ (970 : Int) := by
            apply mul_le_mul _ hscale (zpow_two_pos _).le (by norm_num)
            linarith
        _ ≤ (2 ^ 53 - 7 / 2) * 2 ^ (971 : Int) := by
            rw [htop]
            generalize (2 : ℚ) ^ (970 : Int) = top at hlow ⊢
            linarith

end Magnitude

namespace Number

/-- The double is in range. -/
def InRange : Number → Prop
  | integer .. => True
  | double _ x => x.InRange

theorem isReadable_of_readUnsigned? {negative : Bool} {x : Magnitude} {t : Numeral} {y : Number}
    (ht : Numeral.readUnsigned? negative x.text.toList = some (t, [])) (hy : t.value? = some y) :
  (double negative x).IsReadable
  := by
  use y
  apply read?_of_value? _ hy
  change Numeral.read? ((if negative then "-" else "") ++ x.text).toList = _
  rw [String.toList_append]
  cases negative with
  | true => apply ht
  | false => apply Numeral.read?_of_readUnsigned? ht

theorem exists_value?_last {m : Nat} (hlow : 2 ^ 53 - 3 ≤ m) (hhigh : m < 2 ^ 53)
    (negative : Bool) :
  ∃ r, Numeral.readUnsigned? negative (⟨m, 971⟩ : Magnitude).text.toList = some r ∧
    ∃ y, r.1.value? = some y
  := by
  have hcheck : ((Numeral.readUnsigned? negative (⟨m, 971⟩ : Magnitude).text.toList).bind
      fun r => r.1.value?).isSome = true := by
    obtain rfl | rfl | rfl : m = 9007199254740989 ∨ m = 9007199254740990 ∨
        m = 9007199254740991 := by omega
    all_goals
      rw [Magnitude.text, if_neg (by decide), String.toList_ofList]
      cases negative <;> decide +kernel
  obtain ⟨y, hy⟩ := Option.isSome_iff_exists.1 hcheck
  obtain ⟨r, hr, hvalue⟩ := Option.bind_eq_some_iff.1 hy
  use r, hr, y

theorem isReadable_double {x : Magnitude} (h : x.InRange) (negative : Bool) :
  (double negative x).IsReadable
  := by
  by_cases hzero : x.mantissa = 0
  · have htext : x.text.toList = ['0', '.', '0'] := by
      rw [Magnitude.text, if_pos hzero]
      rfl
    apply isReadable_of_readUnsigned? (t := ⟨negative, [0], [0], none⟩)
      (y := double negative Magnitude.zero)
    · rw [htext]
      rfl
    · cases negative <;> decide +kernel
  · have hpos := Nat.pos_of_ne_zero hzero
    obtain ⟨t, ht, hvalue, hword, hpoint⟩ := Magnitude.spells_text hpos negative
    have hfound : ∃ y, t.value? = some y := by
      by_cases hlast : 2 ^ 53 - 3 ≤ x.mantissa ∧ x.exponent = 971
      · obtain ⟨r, hr, y, hy⟩ := exists_value?_last hlast.1 h.mantissa_lt negative
        rw [← hlast.2] at hr
        cases ht.symm.trans hr
        use y
      · rw [Numeral.value?_of_point hpoint]
        apply Numeral.exists_double? hword
        rw [hvalue]
        apply Magnitude.shortest_le hpos h
        have := h.exponent_le
        omega
    obtain ⟨y, hy⟩ := hfound
    apply isReadable_of_readUnsigned? ht hy

/-- A number in range is read as some number. -/
theorem InRange.isReadable {x : Number} (h : x.InRange) :
  x.IsReadable
  := by
  cases x with
  | integer n le lt => exact ⟨_, isReread_integer n le lt⟩
  | double negative x => apply isReadable_double h

end Number

/-! ### Numbers that were read -/

/-- A number that was read is in range. -/
theorem Number.inRange_of_read? {cs rest : List Char} {x : Number}
    (h : Number.read? cs = some (x, rest)) :
  x.InRange
  := by
  have hdouble {t : Numeral} {x : Number} (hx : t.double? = some x) : x.InRange := by
    unfold Numeral.double? at hx
    dsimp only at hx
    obtain ⟨y, -, h₁⟩ := Option.bind_eq_some_iff.1 hx
    obtain ⟨z, hz, hdone⟩ := Option.bind_eq_some_iff.1 h₁
    cases hdone
    apply Magnitude.inRange_timesTenTo? hz
  obtain ⟨⟨t, cs₁⟩, -, h₁⟩ := Option.bind_eq_some_iff.1 h
  obtain ⟨y, hy, hdone⟩ := Option.bind_eq_some_iff.1 h₁
  cases hdone
  unfold Numeral.value? at hy
  dsimp only at hy
  split at hy
  · apply hdouble hy
  · split at hy
    · split at hy
      · cases hy
        trivial
      · apply hdouble hy
    · split at hy
      · cases hy
        trivial
      · apply hdouble hy

end Entitlement.Json
