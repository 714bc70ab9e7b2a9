import Entitlement.Json.Number
import Mathlib.Data.List.TakeWhile
import Mathlib.Tactic.Use

/-!
# Numbers that are read back

A numeral that is read to its end is read in the same way when something stands behind it
that cannot continue it (`Json.Numeral.read?_append`). So a number whose text is read as
that number is so in every text (`Json.Number.IsReread`). Integers are
(`Json.Number.isReread_integer`); for a double it depends on how its decimals are rounded.
-/

namespace Entitlement.Json

namespace Numeral

/-- The text does not continue a numeral. -/
def Ends (cs : List Char) : Prop :=
  ∀ c, cs.head? = some c → c.isDigit = false ∧ c ≠ '.' ∧ c ≠ 'e' ∧ c ≠ 'E'

/-! ### What stands behind a numeral -/

variable {cs cs' rest : List Char}

theorem digits_append (cs : List Char) (hrest : Ends rest) :
  digits (cs ++ rest) = digits cs ∧ afterDigits (cs ++ rest) = afterDigits cs ++ rest
  := by
  induction cs with
  | nil =>
    cases rest with
    | nil =>
      use rfl
      rfl
    | cons c rest =>
      have hc := (hrest c rfl).1
      constructor
      · simp only [digits, List.nil_append, List.takeWhile_cons, hc]
        rfl
      · simp only [afterDigits, List.nil_append, List.dropWhile_cons, hc]
        rfl
  | cons c cs ih =>
    cases hc : c.isDigit with
    | true =>
      constructor
      · have hdigits := ih.1
        simp only [digits, List.cons_append, List.takeWhile_cons, hc, if_true, List.map_cons]
          at hdigits ⊢
        rw [hdigits]
      · have hafter := ih.2
        simp only [afterDigits, List.cons_append, List.dropWhile_cons, hc, if_true] at hafter ⊢
        apply hafter
    | false =>
      constructor
      · simp only [digits, List.cons_append, List.takeWhile_cons, hc]
        rfl
      · simp only [afterDigits, List.cons_append, List.dropWhile_cons, hc]
        rfl

/-- The digits at the front, when there are some, and the text behind them. -/
theorem someDigits_append {ds : List Nat} (hrest : Ends rest)
    (h : (if (digits cs).isEmpty then none else some (digits cs, afterDigits cs)) =
      some (ds, cs')) :
  (if (digits (cs ++ rest)).isEmpty then none
    else some (digits (cs ++ rest), afterDigits (cs ++ rest))) = some (ds, cs' ++ rest)
  := by
  obtain ⟨hdigits, hafter⟩ := digits_append cs hrest
  rw [hdigits, hafter]
  split at h
  · cases h
  · rename_i hsome
    cases h
    rw [if_neg hsome]

theorem readWhole?_append {ds : List Nat} (hrest : Ends rest)
    (h : readWhole? cs = some (ds, cs')) :
  readWhole? (cs ++ rest) = some (ds, cs' ++ rest)
  := by
  unfold readWhole? at h
  split at h
  · cases h
    rfl
  · rename_i hzero
    cases cs with
    | nil => cases h
    | cons c cs =>
      unfold readWhole?
      split
      · rename_i heq
        cases heq
        cases hzero _ rfl
      · apply someDigits_append hrest h

theorem readFraction?_of_ne (h : cs.head? ≠ some '.') :
  readFraction? cs = some ([], cs)
  := by
  unfold readFraction?
  split
  · cases h rfl
  · rfl

theorem readFraction?_append {ds : List Nat} (hrest : Ends rest)
    (h : readFraction? cs = some (ds, cs')) :
  readFraction? (cs ++ rest) = some (ds, cs' ++ rest)
  := by
  by_cases hpoint : cs.head? = some '.'
  · obtain ⟨cs, rfl⟩ := List.head?_eq_some_iff.1 hpoint
    apply someDigits_append hrest h
  · rw [readFraction?_of_ne hpoint] at h
    cases h
    apply readFraction?_of_ne
    intro hhead
    cases cs with
    | nil => apply (hrest _ hhead).2.1 rfl
    | cons c cs => apply hpoint hhead

theorem readPower?_append {negative : Bool} {e : Option Int} (hrest : Ends rest)
    (h : readPower? negative cs = some (e, cs')) :
  readPower? negative (cs ++ rest) = some (e, cs' ++ rest)
  := by
  obtain ⟨hdigits, hafter⟩ := digits_append cs hrest
  rw [readPower?, hdigits, hafter]
  rw [readPower?] at h
  split at h
  · cases h
  · rename_i hsome
    cases h
    rw [if_neg hsome]

theorem readExponent?_of_ne (h : ∀ c, cs.head? = some c → c ≠ 'e' ∧ c ≠ 'E') :
  readExponent? cs = some (none, cs)
  := by
  cases cs with
  | nil => rfl
  | cons c cs =>
    have hc : ¬(c = 'e' ∨ c = 'E') := not_or.2 (h c rfl)
    unfold readExponent?
    dsimp only
    rw [if_neg hc]

/-- The exponent behind its letter, with or without a sign. -/
theorem readExponent?_append {e : Option Int} (hrest : Ends rest)
    (h : readExponent? cs = some (e, cs')) :
  readExponent? (cs ++ rest) = some (e, cs' ++ rest)
  := by
  cases cs with
  | nil =>
    cases h
    apply readExponent?_of_ne
    intro c hc
    apply (hrest c hc).2.2
  | cons c cs =>
    by_cases hc : c = 'e' ∨ c = 'E'
    · unfold readExponent? at h ⊢
      rw [List.cons_append]
      dsimp only at h ⊢
      rw [if_pos hc] at h ⊢
      split at h
      · apply readPower?_append hrest h
      · apply readPower?_append hrest h
      · rename_i hplus hminus
        cases cs with
        | nil => cases h
        | cons d cs =>
          split
          · rename_i heq
            cases heq
            cases hplus _ rfl
          · rename_i heq
            cases heq
            cases hminus _ rfl
          · apply readPower?_append hrest h
    · have hnone (cs : List Char) : readExponent? (c :: cs) = some (none, c :: cs) := by
        apply readExponent?_of_ne
        rintro _ ⟨⟩
        apply not_or.1 hc
      rw [hnone] at h
      cases h
      apply hnone

/-- A numeral behind its sign. -/
def readUnsigned? (negative : Bool) (cs : List Char) : Option (Numeral × List Char) := do
  let (whole, cs) ← readWhole? cs
  let (fraction, cs) ← readFraction? cs
  let (exponent, cs) ← readExponent? cs
  return (⟨negative, whole, fraction, exponent⟩, cs)

theorem read?_of_ne {c : Char} (hc : c ≠ '-') :
  read? (c :: cs) = readUnsigned? false (c :: cs)
  := by
  unfold read?
  split
  rename_i hsign
  split at hsign
  · rename_i heq
    cases heq
    cases hc rfl
  · cases hsign
    rfl

theorem readUnsigned?_append {negative : Bool} {t : Numeral} (hrest : Ends rest)
    (h : readUnsigned? negative cs = some (t, cs')) :
  readUnsigned? negative (cs ++ rest) = some (t, cs' ++ rest)
  := by
  obtain ⟨⟨whole, cs₁⟩, hwhole, h₁⟩ := Option.bind_eq_some_iff.1 h
  obtain ⟨⟨fraction, cs₂⟩, hfraction, h₂⟩ := Option.bind_eq_some_iff.1 h₁
  obtain ⟨⟨exponent, cs₃⟩, hexponent, h₃⟩ := Option.bind_eq_some_iff.1 h₂
  cases h₃
  rw [readUnsigned?, readWhole?_append hrest hwhole]
  change (readFraction? (cs₁ ++ rest) >>= _) = _
  rw [readFraction?_append hrest hfraction]
  change (readExponent? (cs₂ ++ rest) >>= _) = _
  rw [readExponent?_append hrest hexponent]
  rfl

theorem read?_append {t : Numeral} (hrest : Ends rest) (h : read? cs = some (t, cs')) :
  read? (cs ++ rest) = some (t, cs' ++ rest)
  := by
  cases cs with
  | nil => cases h
  | cons c cs =>
    by_cases hc : c = '-'
    · subst c
      apply readUnsigned?_append hrest h
    · rw [read?_of_ne hc] at h
      rw [List.cons_append, read?_of_ne hc]
      apply readUnsigned?_append hrest h

end Numeral

namespace Number

theorem read?_of_value? {t : Numeral} {x : Number} {cs rest : List Char}
    (ht : Numeral.read? cs = some (t, rest)) (hx : t.value? = some x) :
  read? cs = some (x, rest)
  := by
  rw [read?, ht]
  change (t.value? >>= _) = _
  rw [hx]
  rfl

/-- A number begins with a digit or a sign. -/
theorem head_of_read? {x : Number} {cs rest : List Char} (h : read? cs = some (x, rest)) :
  ∃ c cs', cs = c :: cs' ∧ (c = '-' ∨ c.isDigit = true)
  := by
  cases cs with
  | nil => cases h
  | cons c cs =>
    use c, cs, rfl
    by_cases hminus : c = '-'
    · left
      apply hminus
    · right
      obtain ⟨⟨t, cs₁⟩, ht, -⟩ := Option.bind_eq_some_iff.1 h
      rw [Numeral.read?_of_ne hminus] at ht
      obtain ⟨⟨whole, cs₂⟩, hwhole, -⟩ := Option.bind_eq_some_iff.1 ht
      unfold Numeral.readWhole? at hwhole
      split at hwhole
      · rename_i heq
        cases heq
        rfl
      · cases hdigit : c.isDigit with
        | true => rfl
        | false =>
          have hnone : Numeral.digits (c :: cs) = [] := by
            rw [Numeral.digits, List.takeWhile_cons, hdigit]
            rfl
          rw [hnone] at hwhole
          cases hwhole

/-- The number that the text of the number is read as. -/
def reread (x : Number) : Number :=
  ((read? x.text.toList).map (·.1)).getD x

/-- The text of the number is read as some number. -/
def IsReadable (x : Number) : Prop :=
  ∃ y, read? x.text.toList = some (y, [])

/-- The text of the number is read as the number. -/
def IsReread (x : Number) : Prop :=
  read? x.text.toList = some (x, [])

instance (x : Number) : Decidable x.IsReread := inferInstanceAs (Decidable (_ = _))

theorem IsReadable.read?_text {x : Number} (h : x.IsReadable) :
  read? x.text.toList = some (x.reread, [])
  := by
  obtain ⟨y, hy⟩ := h
  rw [reread, hy]
  rfl

theorem IsReread.reread_eq {x : Number} (h : x.IsReread) :
  x.reread = x
  := by
  have h : read? x.text.toList = some (x, []) := h
  rw [reread, h]
  rfl

/-- What is read to its end is read in the same way in front of what cannot continue it. -/
theorem read?_append {x : Number} {cs rest : List Char} (h : read? cs = some (x, []))
    (hrest : Numeral.Ends rest) :
  read? (cs ++ rest) = some (x, rest)
  := by
  obtain ⟨⟨t, cs'⟩, ht, hx⟩ := Option.bind_eq_some_iff.1 h
  obtain ⟨y, hy, hdone⟩ := Option.bind_eq_some_iff.1 hx
  cases hdone
  apply read?_of_value? (Numeral.read?_append hrest ht) hy

/-! ### Integers -/

/-- Only the decimal digits of zero begin with a zero. -/
theorem toDigits_eq_zero_cons {n : Nat} {cs : List Char} (h : Nat.toDigits 10 n = '0' :: cs) :
  n = 0 ∧ cs = []
  := by
  have hzero : ∀ d < 10, d.digitChar = '0' → d = 0 := by decide
  induction n using Nat.strongRecOn generalizing cs with
  | ind n ih =>
    rw [Nat.toDigits_eq_if (by decide)] at h
    split at h
    · rename_i hn
      obtain ⟨hdigit, rfl⟩ := List.cons.inj h
      use hzero n hn hdigit
    · rename_i hn
      cases hfirst : Nat.toDigits 10 (n / 10) with
      | nil => cases Nat.toDigits_ne_nil hfirst
      | cons c ds =>
        rw [hfirst] at h
        obtain ⟨rfl, -⟩ := List.cons.inj h
        have := (ih (n / 10) (by omega) hfirst).1
        omega

theorem isDigit_of_mem_toDigits {n : Nat} {c : Char} (h : c ∈ Nat.toDigits 10 n) :
  c.isDigit = true
  := Nat.isDigit_of_mem_toDigits (by decide) (by decide) h

theorem digits_eq_map {cs : List Char} (h : ∀ c ∈ cs, c.isDigit = true) :
  Numeral.digits cs = cs.map fun c => c.toNat - 48
  := by
  rw [Numeral.digits, List.takeWhile_eq_self_iff.2 h]

/-- The decimal digits of a number are those of the number. -/
theorem ofDigits_toDigits (n : Nat) :
  Numeral.ofDigits (Numeral.digits (Nat.toDigits 10 n)) = n
  := by
  rw [digits_eq_map fun c => isDigit_of_mem_toDigits, Numeral.ofDigits, List.foldl_map]
  exact Nat.ofDigitChars_ten_toDigits

theorem readUnsigned?_toDigits (negative : Bool) (n : Nat) :
  ∃ ds, Numeral.ofDigits ds = n ∧
    Numeral.readUnsigned? negative (Nat.toDigits 10 n) = some (⟨negative, ds, [], none⟩, [])
  := by
  have hdigit (c : Char) (hc : c ∈ Nat.toDigits 10 n) : c.isDigit = true :=
    isDigit_of_mem_toDigits hc
  use Numeral.digits (Nat.toDigits 10 n), ofDigits_toDigits n
  have hwhole : Numeral.readWhole? (Nat.toDigits 10 n) =
      some (Numeral.digits (Nat.toDigits 10 n), []) := by
    unfold Numeral.readWhole?
    split
    · rename_i cs h
      obtain ⟨-, rfl⟩ := toDigits_eq_zero_cons h
      rw [h]
      rfl
    · rw [Numeral.afterDigits, List.dropWhile_eq_nil_iff.2 hdigit, if_neg]
      rw [digits_eq_map hdigit, List.isEmpty_map, List.isEmpty_iff]
      apply Nat.toDigits_ne_nil
  rw [Numeral.readUnsigned?, hwhole]
  rfl

/-- Digits without a sign are the number that they write, when a word holds it. -/
theorem value?_of_digits {ds : List Nat} {n : Int} (hds : (Numeral.ofDigits ds : Int) = n)
    (le : -0x8000000000000000 ≤ n) (lt : n < 0x10000000000000000) :
  Numeral.value? ⟨false, ds, [], none⟩ = some (integer n le lt)
  := by
  subst n
  unfold Numeral.value?
  dsimp only
  rw [if_neg (by simp), if_neg (by simp), dif_pos]
  use lt
  omega

/-- Digits behind a sign are the negative number that they write, when a word holds it. -/
theorem value?_of_sign {ds : List Nat} {n : Int} (hds : -(Numeral.ofDigits ds : Int) = n)
    (hn : n < 0) (le : -0x8000000000000000 ≤ n) (lt : n < 0x10000000000000000) :
  Numeral.value? ⟨true, ds, [], none⟩ = some (integer n le lt)
  := by
  subst n
  unfold Numeral.value?
  dsimp only
  rw [if_neg (by simp), if_pos rfl, dif_pos]
  omega

theorem read?_toDigits (n : Nat) :
  ∃ ds, Numeral.ofDigits ds = n ∧
    Numeral.read? (Nat.toDigits 10 n) = some (⟨false, ds, [], none⟩, [])
  := by
  obtain ⟨ds, hds, hread⟩ := readUnsigned?_toDigits false n
  use ds, hds
  cases h : Nat.toDigits 10 n with
  | nil => cases Nat.toDigits_ne_nil h
  | cons c cs =>
    have hc : c ≠ '-' := by
      rintro rfl
      have hminus : '-' ∈ Nat.toDigits 10 n := by
        rw [h]
        apply List.mem_cons_self
      cases isDigit_of_mem_toDigits hminus
    rw [Numeral.read?_of_ne hc, ← h, hread]

/-- Integers are read as they are written. -/
theorem isReread_integer (n : Int) (le : -0x8000000000000000 ≤ n) (lt : n < 0x10000000000000000) :
  (integer n le lt).IsReread
  := by
  cases n with
  | ofNat n =>
    obtain ⟨ds, hds, hread⟩ := read?_toDigits n
    have htext : (integer (.ofNat n) le lt).text.toList = Nat.toDigits 10 n := by
      change n.repr.toList = _
      rw [Nat.repr_eq_ofList_toDigits, String.toList_ofList]
    rw [IsReread, htext]
    apply read?_of_value? hread
    apply value?_of_digits
    rw [hds]
    rfl
  | negSucc n =>
    obtain ⟨ds, hds, hread⟩ := readUnsigned?_toDigits true (n + 1)
    have htext : (integer (.negSucc n) le lt).text.toList = '-' :: Nat.toDigits 10 (n + 1) := by
      change ("-" ++ (n + 1).repr).toList = _
      rw [Nat.repr_eq_ofList_toDigits, String.toList_append]
      change '-' :: (String.ofList (Nat.toDigits 10 (n + 1))).toList = _
      rw [String.toList_ofList]
    have hnumeral : Numeral.read? ('-' :: Nat.toDigits 10 (n + 1)) =
        some (⟨true, ds, [], none⟩, []) := hread
    rw [IsReread, htext]
    apply read?_of_value? hnumeral
    apply value?_of_sign
    · rw [hds]
      rfl
    · apply Int.negSucc_lt_zero

end Number

end Entitlement.Json
