import Entitlement.Key.Symbols
import Mathlib.Data.Nat.Bitwise
import Mathlib.Tactic.Ring

/-!
# Symbols as bits

A text of symbols stands for the bits of its symbols, five for each, and a string of octets
for eight bits for each. Writing octets as symbols keeps the bits and puts fewer than five
zeros behind them (`Symbols.symbolBits_encode`); reading symbols cuts the bits into octets
and drops those that fill none (`Symbols.decode_eq`). Hence what has been written is read
back (`Symbols.decode_encode`).
-/

namespace Entitlement.Symbols

/-! ### Bits of numbers -/

/-- The `w` low bits of a number, the most significant first. -/
def bits : (w : Nat) → (n : Nat) → List Bool
  | 0, _ => []
  | w + 1, n => n.testBit w :: bits w n

@[simp]
theorem length_bits (w n : Nat) :
  (bits w n).length = w
  := by
  induction w with
  | zero => rfl
  | succ w ih => rw [bits, List.length_cons, ih]

theorem bits_congr {w m n : Nat} (h : ∀ i < w, m.testBit i = n.testBit i) :
  bits w m = bits w n
  := by
  induction w with
  | zero => rfl
  | succ w ih =>
    rw [bits, bits, h w (Nat.lt_succ_self w), ih fun i hi => h i (Nat.lt_succ_of_lt hi)]

theorem bits_mod (w n : Nat) :
  bits w (n % 2 ^ w) = bits w n
  := by
  apply bits_congr
  intro i hi
  simp [hi]

theorem bits_add (v w n : Nat) :
  bits (v + w) n = bits v (n >>> w) ++ bits w n
  := by
  induction v with
  | zero => rw [Nat.zero_add, bits, List.nil_append]
  | succ v ih =>
    rw [Nat.succ_add, bits, bits, ih, Nat.testBit_shiftRight, Nat.add_comm w v, List.cons_append]

theorem bits_zero (w : Nat) :
  bits w 0 = List.replicate w false
  := by
  induction w with
  | zero => rfl
  | succ w ih => rw [bits, ih, Nat.zero_testBit, List.replicate_succ]

/-- The bits of a number that is shifted to make room for another one. -/
theorem bits_shiftLeft_or (v : Nat) {w m n : Nat} (hn : n < 2 ^ w) :
  bits (v + w) (m <<< w ||| n) = bits v m ++ bits w n
  := by
  rw [bits_add]
  congr 1
  · rw [Nat.shiftRight_or_distrib, Nat.shiftLeft_shiftRight, Nat.shiftRight_eq_zero n w hn,
      Nat.or_zero]
  · apply bits_congr
    intro i hi
    simp [Nat.not_le.2 hi]

/-! ### Octets of bits -/

/-- The octets that bits fill, the most significant bit of each first. -/
def octets : List Bool → Bytes
  | b₇ :: b₆ :: b₅ :: b₄ :: b₃ :: b₂ :: b₁ :: b₀ :: bs =>
    UInt8.ofNat ([b₇, b₆, b₅, b₄, b₃, b₂, b₁, b₀].foldl (fun n b => 2 * n + b.toNat) 0) ::
      octets bs
  | _ => []

theorem foldl_bits (m w n : Nat) :
  (bits w n).foldl (fun n b => 2 * n + b.toNat) m = 2 ^ w * m + n % 2 ^ w
  := by
  induction w generalizing m with
  | zero => simp [bits, Nat.mod_one]
  | succ w ih =>
    have h : n % 2 ^ (w + 1) = 2 ^ w * (n.testBit w).toNat + n % 2 ^ w := by
      rw [Nat.toNat_testBit, Nat.mod_pow_succ, Nat.add_comm]
    rw [bits, List.foldl_cons, ih, h, pow_succ]
    ring

theorem octets_bits (n : Nat) (bs : List Bool) :
  octets (bits 8 n ++ bs) = UInt8.ofNat n :: octets bs
  := by
  have h := foldl_bits 0 8 n
  rw [Nat.mul_zero, Nat.zero_add] at h
  change UInt8.ofNat ((bits 8 n).foldl (fun n b => 2 * n + b.toNat) 0) :: octets bs = _
  rw [h, UInt8.ofNat_mod_size]

theorem octets_of_length_lt {bs : List Bool} (h : bs.length < 8) :
  octets bs = []
  := by
  unfold octets
  split
  · simp only [List.length_cons] at h
    omega
  · rfl

/-! ### Bits of symbols -/

/-- The bits of a symbol, none if the character is no symbol. -/
def symbolBits (c : Char) : List Bool :=
  match value? c with
  | some v => bits 5 v.toNat
  | none => []

/-- The bits that the symbols of a text stand for; separators stand for none. -/
def textBits (cs : List Char) : List Bool :=
  (cs.filter fun c => !isSeparator c).flatMap symbolBits

/-- The bits of octets. -/
def octetBits (bs : Bytes) : List Bool :=
  bs.flatMap fun b => bits 8 b.toNat

theorem value?_get (i : Fin 32) :
  value? (alphabet.get i) = some (UInt32.ofNat i)
  := by
  revert i
  decide

theorem isSeparator_get (i : Fin 32) :
  isSeparator (alphabet.get i) = false
  := by
  revert i
  decide

theorem isSeparator_symbol (word : UInt32) :
  isSeparator (symbol word) = false
  := isSeparator_get _

theorem value?_symbol (word : UInt32) :
  value? (symbol word) = some (UInt32.ofNat (word.toNat % 32))
  := value?_get _

theorem symbolBits_symbol (word : UInt32) :
  symbolBits (symbol word) = bits 5 word.toNat
  := by
  have h : (UInt32.ofNat (word.toNat % 32)).toNat = word.toNat % 2 ^ 5 := by
    rw [UInt32.toNat_ofNat']
    omega
  rw [symbolBits, value?_symbol]
  dsimp only
  rw [h, bits_mod]

theorem value?_lt {c : Char} {v : UInt32} (h : value? c = some v) :
  v.toNat < 2 ^ 5
  := by
  obtain ⟨i, hi, rfl⟩ := Option.map_eq_some_iff.1 h
  obtain ⟨hlt, -⟩ := List.idxOf?_eq_some_iff.1 hi
  rw [length_alphabet] at hlt
  rw [UInt32.toNat_ofNat']
  omega

/-! ### Words -/

/-- A word with at most `n` bits that is shifted by `k` places to take in a number. -/
theorem toNat_shiftLeft_or {word s v : UInt32} {n k : Nat} (hs : s.toNat = k)
    (hword : word.toNat < 2 ^ n) (hk : k < 32) (h : n + k ≤ 32) :
  ((word <<< s) ||| v).toNat = word.toNat <<< k ||| v.toNat
  := by
  have hlt : word.toNat <<< k < 2 ^ 32 := by
    rw [Nat.shiftLeft_eq]
    calc word.toNat * 2 ^ k
        < 2 ^ n * 2 ^ k := Nat.mul_lt_mul_of_pos_right hword (Nat.two_pow_pos k)
      _ = 2 ^ (n + k) := (Nat.pow_add 2 n k).symm
      _ ≤ 2 ^ 32 := Nat.pow_le_pow_right (by decide) h
  rw [UInt32.toNat_or, UInt32.toNat_shiftLeft, hs, Nat.mod_eq_of_lt hk, Nat.mod_eq_of_lt hlt]

theorem toNat_toUInt32_lt (b : UInt8) :
  b.toUInt32.toNat < 2 ^ 8
  := by
  rw [UInt8.toNat_toUInt32]
  apply b.toNat_lt

theorem shiftLeft_or_lt {m v n k : Nat} (hm : m < 2 ^ n) (hv : v < 2 ^ k) :
  m <<< k ||| v < 2 ^ (n + k)
  := by
  apply Nat.or_lt_two_pow
  · rw [Nat.shiftLeft_eq, Nat.pow_add]
    apply Nat.mul_lt_mul_of_pos_right hm (Nat.two_pow_pos k)
  · apply lt_of_lt_of_le hv (Nat.pow_le_pow_right (by decide) (Nat.le_add_left k n))

theorem toNat_lowBits (word : UInt32) {n : Nat} (h : n < 32) :
  (lowBits word n).toNat = word.toNat % 2 ^ n
  := by
  have hn : (UInt32.ofNat n).toNat = n := by
    rw [UInt32.toNat_ofNat']
    omega
  have hone : ((1 : UInt32) <<< UInt32.ofNat n).toNat = 2 ^ n := by
    rw [UInt32.toNat_shiftLeft, hn, Nat.mod_eq_of_lt h, UInt32.toNat_one, Nat.one_shiftLeft,
      Nat.mod_eq_of_lt (Nat.pow_lt_pow_right (by decide) h)]
  have hpos : (1 : UInt32) ≤ 1 <<< UInt32.ofNat n := by
    rw [UInt32.le_iff_toNat_le, hone]
    apply Nat.one_le_two_pow
  rw [lowBits, UInt32.toNat_and, UInt32.toNat_sub_of_le _ _ hpos, hone,
    ← Nat.and_two_pow_sub_one_eq_mod]
  rfl

theorem toNat_shiftRight (word : UInt32) {n : Nat} (h : n < 32) :
  (word >>> UInt32.ofNat n).toNat = word.toNat >>> n
  := by
  have hn : (UInt32.ofNat n).toNat = n := by
    rw [UInt32.toNat_ofNat']
    omega
  rw [UInt32.toNat_shiftRight, hn, Nat.mod_eq_of_lt h]

/-! ### Writing -/

/-- Fewer than five bits are left when no symbol is filled. -/
theorem lt_of_not_filled {n : Nat} (h : ∀ m, n = m + 5 → False) :
  n < 5
  := by
  by_contra h5
  apply h (n - 5) (by omega)

/-- The symbols that are filled, and the bits left over, are all bits of the word. -/
theorem symbolBits_filled (word : UInt32) {n : Nat} (h : n < 32) :
  (filled word n).flatMap symbolBits ++ bits (n % 5) word.toNat = bits n word.toNat
  := by
  fun_induction filled word n with
  | case1 n ih =>
    have hmod : n.succ.succ.succ.succ.succ % 5 = n % 5 := by omega
    rw [List.flatMap_cons, symbolBits_symbol, toNat_shiftRight word (by omega), List.append_assoc,
      hmod, ih (by omega), ← bits_add, Nat.add_comm]
  | case2 n hn =>
    rw [Nat.mod_eq_of_lt (lt_of_not_filled hn)]
    rfl

/-- How many zeros are put behind `n` bits to fill the last symbol. -/
def padding (n : Nat) : Nat := (5 - n % 5) % 5

/-- The symbols of octets stand for the bits of the octets, with fewer than five zeros behind
them. -/
theorem symbolBits_encodeFrom (bs : Bytes) {word : UInt32} {n : Nat} (hn : n < 5)
    (hword : word.toNat < 2 ^ n) :
  (encodeFrom word n bs).flatMap symbolBits =
    bits n word.toNat ++ octetBits bs ++ List.replicate (padding (n + 8 * bs.length)) false
  := by
  induction bs generalizing word n with
  | nil =>
    rw [encodeFrom]
    split
    · rename_i h
      subst h
      rfl
    · rename_i h
      have hs : (UInt32.ofNat (5 - n)).toNat = 5 - n := by
        rw [UInt32.toNat_ofNat']
        omega
      have hnat := toNat_shiftLeft_or (v := 0) hs hword (by omega) (by omega)
      have hbits := bits_shiftLeft_or n (m := word.toNat) (Nat.two_pow_pos (5 - n))
      have hpad : padding (n + 8 * ([] : Bytes).length) = 5 - n := by
        unfold padding
        rw [List.length_nil]
        omega
      rw [UInt32.or_zero] at hnat
      rw [Nat.add_sub_cancel' hn.le, bits_zero] at hbits
      rw [List.flatMap_singleton, symbolBits_symbol, hnat, UInt32.toNat_zero, hbits, hpad]
      simp [octetBits]
  | cons b bs ih =>
    have hnat := toNat_shiftLeft_or (s := 8) (v := b.toUInt32) (k := 8) rfl hword
      (by decide) (by omega)
    have hlow := toNat_lowBits ((word <<< 8) ||| b.toUInt32) (n := (n + 8) % 5) (by omega)
    have hpad : padding ((n + 8) % 5 + 8 * bs.length) = padding (n + 8 * (b :: bs).length) := by
      unfold padding
      rw [List.length_cons]
      omega
    have hlt : (lowBits ((word <<< 8) ||| b.toUInt32) ((n + 8) % 5)).toNat < 2 ^ ((n + 8) % 5) := by
      rw [hlow]
      apply Nat.mod_lt _ (Nat.two_pow_pos _)
    rw [encodeFrom, List.flatMap_append, ih (Nat.mod_lt _ (by decide)) hlt, hlow, bits_mod,
      List.append_assoc, ← List.append_assoc, symbolBits_filled _ (by omega), hnat,
      bits_shiftLeft_or n (toNat_toUInt32_lt b), hpad, UInt8.toNat_toUInt32]
    simp [octetBits]

theorem symbolBits_encode (bs : Bytes) :
  (encode bs).flatMap symbolBits =
    octetBits bs ++ List.replicate (padding (8 * bs.length)) false
  := by
  have h : (0 : UInt32).toNat < 2 ^ 0 := by decide
  have := symbolBits_encodeFrom bs (Nat.zero_lt_succ 4) h
  rwa [Nat.zero_add] at this

/-! ### Reading -/

/-- What is read of a text of symbols and separators are the octets that its bits fill. -/
theorem decodeFrom_eq {cs : List Char} (hcs : ∀ c ∈ cs, isSeparator c ∨ (value? c).isSome)
    {word : UInt32} {n : Nat} (hn : n < 8) (hword : word.toNat < 2 ^ n) :
  decodeFrom word n cs = .ok (octets (bits n word.toNat ++ textBits cs))
  := by
  induction cs generalizing word n with
  | nil =>
    rw [textBits, List.filter_nil, List.flatMap_nil, List.append_nil,
      octets_of_length_lt (by rwa [length_bits])]
    rfl
  | cons c cs ih =>
    have hcs' : ∀ d ∈ cs, isSeparator d ∨ (value? d).isSome := fun d hd =>
      hcs d (List.mem_cons_of_mem c hd)
    rw [decodeFrom]
    by_cases hc : isSeparator c
    · rw [if_pos hc, ih hcs' hn hword, textBits, textBits, List.filter_cons, hc]
      rfl
    · obtain ⟨v, hv⟩ := Option.isSome_iff_exists.1 ((hcs c List.mem_cons_self).resolve_left hc)
      have htext : textBits (c :: cs) = bits 5 v.toNat ++ textBits cs := by
        rw [textBits, List.filter_cons, if_pos (by simpa using hc), List.flatMap_cons, symbolBits, hv]
        rfl
      have hnat := toNat_shiftLeft_or (s := 5) (v := v) (k := 5) rfl hword (by decide) (by omega)
      have hlt := shiftLeft_or_lt hword (value?_lt hv)
      have hbits := bits_shiftLeft_or n (m := word.toNat) (value?_lt hv)
      rw [if_neg hc, hv, htext]
      dsimp only
      rw [← hnat] at hlt hbits
      rw [← List.append_assoc, ← hbits]
      split
      · apply ih hcs' (by omega) hlt
      · have hlow := toNat_lowBits ((word <<< 5) ||| v) (n := n - 3) (by omega)
        have hlow' : (lowBits ((word <<< 5) ||| v) (n - 3)).toNat < 2 ^ (n - 3) := by
          rw [hlow]
          apply Nat.mod_lt _ (Nat.two_pow_pos _)
        have hsplit : n + 5 = 8 + (n - 3) := by omega
        rw [ih hcs' (by omega) hlow', hlow, bits_mod, hsplit, bits_add, List.append_assoc, octets_bits,
          ← toNat_shiftRight _ (by omega)]
        rfl

theorem decode_eq {cs : List Char} (hcs : ∀ c ∈ cs, isSeparator c ∨ (value? c).isSome) :
  decode cs = .ok (octets (textBits cs))
  := decodeFrom_eq hcs (by decide) (by decide)

/-- Only symbols and separators are read. -/
theorem forall_of_decodeFrom {cs : List Char} {word : UInt32} {n : Nat} {bs : Bytes}
    (h : decodeFrom word n cs = .ok bs) :
  ∀ c ∈ cs, isSeparator c ∨ (value? c).isSome
  := by
  induction cs generalizing word n bs with
  | nil => rintro _ ⟨⟩
  | cons c cs ih =>
    rw [decodeFrom] at h
    rw [List.forall_mem_cons]
    split at h
    · rename_i hc
      use .inl hc, ih h
    · split at h
      · cases h
      · rename_i v hv
        constructor
        · right
          rw [hv]
          rfl
        · dsimp only at h
          split at h
          · apply ih h
          · cases hrest : decodeFrom _ _ cs with
            | error e =>
              rw [hrest] at h
              cases h
            | ok rest => apply ih hrest

theorem decode_eq_ok_iff {cs : List Char} {bs : Bytes} :
  decode cs = .ok bs ↔
    (∀ c ∈ cs, isSeparator c ∨ (value? c).isSome) ∧ bs = octets (textBits cs)
  := by
  constructor
  · intro h
    have hcs := forall_of_decodeFrom h
    use hcs
    rw [decode_eq hcs] at h
    cases h
    rfl
  · rintro ⟨hcs, rfl⟩
    apply decode_eq hcs

theorem octets_octetBits (bs : Bytes) {rest : List Bool} (h : rest.length < 8) :
  octets (octetBits bs ++ rest) = bs
  := by
  induction bs with
  | nil => apply octets_of_length_lt h
  | cons b bs ih =>
    rw [octetBits, List.flatMap_cons, List.append_assoc, octets_bits, UInt8.ofNat_toNat]
    apply congrArg (b :: ·) ih

theorem mem_filled {c : Char} {word : UInt32} {n : Nat} (h : c ∈ filled word n) :
  ∃ w, c = symbol w
  := by
  fun_induction filled word n with
  | case1 n ih =>
    rcases List.mem_cons.1 h with rfl | h
    · use word >>> UInt32.ofNat n
    · apply ih h
  | case2 => cases h

theorem mem_encodeFrom {c : Char} {bs : Bytes} {word : UInt32} {n : Nat}
    (h : c ∈ encodeFrom word n bs) :
  ∃ w, c = symbol w
  := by
  induction bs generalizing word n with
  | nil =>
    rw [encodeFrom] at h
    split at h
    · cases h
    · use word <<< UInt32.ofNat (5 - n)
      apply List.mem_singleton.1 h
  | cons b bs ih =>
    rcases List.mem_append.1 h with h | h
    · apply mem_filled h
    · apply ih h

theorem isSome_value?_of_mem_encode {c : Char} {bs : Bytes} (h : c ∈ encode bs) :
  (value? c).isSome = true
  := by
  obtain ⟨w, rfl⟩ := mem_encodeFrom h
  rw [value?_symbol]
  rfl

theorem isSeparator_of_mem_encode {c : Char} {bs : Bytes} (h : c ∈ encode bs) :
  isSeparator c = false
  := by
  obtain ⟨w, rfl⟩ := mem_encodeFrom h
  apply isSeparator_symbol

/-- What has been written is read back. -/
theorem decode_encode (bs : Bytes) :
  decode (encode bs) = .ok bs
  := by
  have hsymbols : ∀ c ∈ encode bs, isSeparator c ∨ (value? c).isSome := fun c hc =>
    .inr (isSome_value?_of_mem_encode hc)
  have hfilter : (encode bs).filter (fun c => !isSeparator c) = encode bs := by
    apply List.filter_eq_self.2
    intro c hc
    rw [isSeparator_of_mem_encode hc]
    rfl
  have hpad : (List.replicate (padding (8 * bs.length)) false).length < 8 := by
    rw [List.length_replicate, padding]
    omega
  rw [decode_eq hsymbols, textBits, hfilter, symbolBits_encode, octets_octetBits bs hpad]

end Entitlement.Symbols
