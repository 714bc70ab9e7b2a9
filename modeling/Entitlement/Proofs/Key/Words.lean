import Entitlement.Proofs.Key.Spelling

/-!
# The word between octets and symbols

Octets are written as symbols, and symbols are read as octets, through a word of 32 bits. At
every place of the text the word holds exactly the bits that have been taken in and not been
given out, fewer than five of them when writing and fewer than eight when reading; so the bits
that are taken in next push none of them out (`Symbols.keeps_writing`, `Symbols.keeps_reading`).

Writing and reading thus come to what they are in terms of bits: `Symbols.encode_decode_bits`.
-/

namespace Entitlement.Symbols

/-! ### Characters that are read -/

/-- The character is a dash, a blank character, or a symbol in one of its cases. -/
def IsRead (c : Char) : Prop :=
  c = '-' ∨ Text.isBlank c = true ∨ c ∈ alphabet ∨ c ∈ alphabet.map Char.toLower

instance : DecidablePred IsRead := fun c =>
  inferInstanceAs (Decidable (c = '-' ∨ Text.isBlank c = true ∨ c ∈ alphabet ∨
    c ∈ alphabet.map Char.toLower))

theorem mem_alphabet_iff {c : Char} :
  c.toUpper ∈ alphabet ↔ c ∈ alphabet ∨ c ∈ alphabet.map Char.toLower
  := by
  rw [List.mem_map]
  constructor
  · intro h
    rcases toUpper_cases c with hc | ⟨hlow, hhigh, hc⟩
    · left
      rwa [hc] at h
    · right
      use c.toUpper, h
      have hlower : ∀ s ∈ alphabet, 65 ≤ s.toNat → s.toLower.toNat = s.toNat + 32 :=
        List.all_iff_forall_prop.1 (by decide)
      apply Char.toNat_inj.1
      rw [hlower _ h (by omega), hc]
      omega
  · have hupper : ∀ s ∈ alphabet, s.toUpper ∈ alphabet ∧ s.toLower.toUpper ∈ alphabet :=
      List.all_iff_forall_prop.1 (by decide)
    rintro (h | ⟨s, hs, rfl⟩)
    · apply (hupper c h).1
    · apply (hupper s hs).2

theorem isRead_iff {c : Char} :
  IsRead c ↔ isSeparator c = true ∨ (value? c).isSome = true
  := by
  rw [IsRead, ← mem_alphabet_iff, value?, Option.isSome_map, List.isSome_idxOf?, isSeparator,
    Bool.or_eq_true, decide_eq_true_eq, or_assoc]

/-- Either all characters of a text are read, or there is a first one that is not. -/
theorem forall_isRead_or_split (cs : List Char) :
  (∀ c ∈ cs, IsRead c) ∨
    ∃ front c back, cs = front ++ c :: back ∧ (∀ d ∈ front, IsRead d) ∧ ¬ IsRead c
  := by
  induction cs with
  | nil =>
    left
    rintro _ ⟨⟩
  | cons c cs ih =>
    by_cases hc : IsRead c
    · rcases ih with hcs | ⟨front, d, back, rfl, hfront, hd⟩
      · left
        rw [List.forall_mem_cons]
        use hc, hcs
      · right
        use c :: front, d, back, rfl
        rw [List.forall_mem_cons]
        use ⟨hc, hfront⟩, hd
    · right
      use [], c, cs, rfl
      use (by rintro _ ⟨⟩), hc

/-! ### Octets of bits -/

/-- The bits of the number that bits stand for. -/
theorem bits_foldl (bs : List Bool) :
  bits bs.length (bs.foldl (fun n b => 2 * n + b.toNat) 0) = bs
  := by
  induction bs using List.reverseRecOn with
  | nil => rfl
  | append_singleton bs b ih =>
    have hb : b.toNat < 2 ^ 1 := Bool.toNat_lt b
    have hshift (n : Nat) : 2 * n + b.toNat = n <<< 1 ||| b.toNat := by
      rw [← Nat.shiftLeft_add_eq_or_of_lt hb, Nat.shiftLeft_eq, pow_one, Nat.mul_comm]
    have hbit : bits 1 b.toNat = [b] := by cases b <;> rfl
    rw [List.foldl_append, List.foldl_cons, List.foldl_nil, hshift, List.length_append,
      List.length_singleton, bits_shiftLeft_or _ hb, ih, hbit]

/-- The first `w` bits are those of a number. -/
theorem exists_bits_append {w : Nat} {bs : List Bool} (h : w ≤ bs.length) :
  ∃ n rest, bs = bits w n ++ rest
  := by
  have hbits := bits_foldl (bs.take w)
  rw [List.length_take_of_le h] at hbits
  use (bs.take w).foldl (fun n b => 2 * n + b.toNat) 0, bs.drop w
  rw [hbits, List.take_append_drop]

theorem octetBits_append (bs cs : Bytes) :
  octetBits (bs ++ cs) = octetBits bs ++ octetBits cs
  := List.flatMap_append

theorem length_octetBits (bs : Bytes) :
  (octetBits bs).length = 8 * bs.length
  := by
  induction bs with
  | nil => rfl
  | cons b bs ih =>
    rw [octetBits, List.flatMap_cons, List.length_append, length_bits, List.length_cons]
    change 8 + (octetBits bs).length = _
    omega

/-- The bits of the octets that bits fill are those bits, without the last ones that fill none. -/
theorem octetBits_octets (bs : List Bool) :
  octetBits (octets bs) = bs.take (8 * (bs.length / 8))
  := by
  induction hn : bs.length using Nat.strong_induction_on generalizing bs with
  | h n ih =>
    subst hn
    by_cases hlt : bs.length < 8
    · rw [octets_of_length_lt hlt, Nat.div_eq_of_lt hlt]
      rfl
    · -- The first eight bits are one octet; the induction is on those that follow.
      obtain ⟨m, rest, rfl⟩ := exists_bits_append (Nat.not_lt.1 hlt)
      have hlength : (bits 8 m ++ rest).length = 8 + rest.length := by
        rw [List.length_append, length_bits]
      have hmany : 8 * ((8 + rest.length) / 8) = 8 + 8 * (rest.length / 8) := by omega
      have htake (k : Nat) : (bits 8 m ++ rest).take (8 + k) = bits 8 m ++ rest.take k := by
        rw [← List.take_length_add_append k, length_bits]
      rw [hlength, hmany, htake, octets_bits, octetBits, List.flatMap_cons, UInt8.toNat_ofNat',
        bits_mod]
      apply congrArg (bits 8 m ++ ·) (ih rest.length (by omega) rest rfl)

theorem length_octets (bs : List Bool) :
  (octets bs).length = bs.length / 8
  := by
  have h := congrArg List.length (octetBits_octets bs)
  rw [length_octetBits, List.length_take] at h
  omega

theorem octets_eq_iff {bs : Bytes} {ts : List Bool} :
  bs = octets ts ↔
    bs.length = ts.length / 8 ∧ octetBits bs = ts.take (8 * bs.length)
  := by
  constructor
  · rintro rfl
    rw [octetBits_octets, length_octets]
    use rfl
  · rintro ⟨hlength, hbits⟩
    have hrest : (ts.drop (8 * bs.length)).length < 8 := by
      rw [List.length_drop]
      omega
    have h := octets_octetBits bs hrest
    rwa [hbits, List.take_append_drop, eq_comm] at h

/-! ### Symbols of bits -/

/-- The values of the symbols are their places in the alphabet, in either case. -/
theorem symbolBits_get (i : Fin 32) :
  symbolBits (alphabet.get i) = bits 5 i ∧ symbolBits (alphabet.get i).toLower = bits 5 i
  := by
  revert i
  decide

theorem mem_alphabet_of_mem_encode {c : Char} {bs : Bytes} (h : c ∈ encode bs) :
  c ∈ alphabet
  := by
  obtain ⟨w, rfl⟩ := mem_encodeFrom h
  apply List.get_mem

theorem length_flatMap_symbolBits {cs : List Char} (h : ∀ c ∈ cs, (value? c).isSome = true) :
  (cs.flatMap symbolBits).length = 5 * cs.length
  := by
  induction cs with
  | nil => rfl
  | cons c cs ih =>
    rw [List.forall_mem_cons] at h
    obtain ⟨v, hv⟩ := Option.isSome_iff_exists.1 h.1
    have hc : (symbolBits c).length = 5 := by
      rw [symbolBits, hv]
      apply length_bits
    rw [List.flatMap_cons, List.length_append, hc, ih h.2, List.length_cons]
    omega

theorem length_encode (bs : Bytes) :
  (encode bs).length = (8 * bs.length + 4) / 5
  := by
  have h := congrArg List.length (symbolBits_encode bs)
  rw [length_flatMap_symbolBits fun c hc => isSome_value?_of_mem_encode hc, List.length_append,
    length_octetBits, List.length_replicate, padding] at h
  omega

theorem textBits_append (cs ds : List Char) :
  textBits (cs ++ ds) = textBits cs ++ textBits ds
  := by
  rw [textBits, List.filter_append, List.flatMap_append, textBits, textBits]

theorem length_textBits {cs : List Char} (h : ∀ c ∈ cs, IsRead c) :
  (textBits cs).length = 5 * (KeyText.symbols cs).length
  := by
  apply length_flatMap_symbolBits
  intro c hc
  obtain ⟨hmem, hsymbol⟩ := List.mem_filter.1 hc
  rcases isRead_iff.1 (h c hmem) with hseparator | hvalue
  · rw [hseparator] at hsymbol
    cases hsymbol
  · apply hvalue

/-! ### Words that hold bits -/

/-- The bits that are left when as many groups of `k` as there are have been given out. -/
def leftOver (k : Nat) (bs : List Bool) : List Bool :=
  bs.drop (k * (bs.length / k))

theorem length_leftOver (k : Nat) (bs : List Bool) :
  (leftOver k bs).length = bs.length % k
  := by
  rw [leftOver, List.length_drop, Nat.mod_def]

theorem leftOver_of_length_lt {k : Nat} {bs : List Bool} (h : bs.length < k) :
  leftOver k bs = bs
  := by
  rw [leftOver, Nat.div_eq_of_lt h]
  rfl

/-- It does not matter whether groups are given out before more bits are there. -/
theorem leftOver_append (k : Nat) (bs cs : List Bool) :
  leftOver k (leftOver k bs ++ cs) = leftOver k (bs ++ cs)
  := by
  have hle : k * (bs.length / k) ≤ bs.length := Nat.mul_div_le bs.length k
  have hlength : (bs ++ cs).length = k * (bs.length / k) + (leftOver k bs ++ cs).length := by
    rw [List.length_append, List.length_append, leftOver, List.length_drop]
    omega
  have hmany : k * ((bs ++ cs).length / k) =
      k * (bs.length / k) + k * ((leftOver k bs ++ cs).length / k) := by
    rw [hlength, ← Nat.mul_add]
    rcases Nat.eq_zero_or_pos k with rfl | hk
    · rw [Nat.zero_mul, Nat.zero_mul]
    · rw [Nat.mul_add_div hk]
  conv_rhs => rw [leftOver, hmany, ← List.drop_drop, List.drop_append_of_le_length hle]
  rfl

/-- The low bits of a word, as many as are counted, are the given ones, and the others are not
set. -/
structure Holds (s : UInt32 × Nat) (live : List Bool) : Prop where
  count : s.2 = live.length
  lt : s.1.toNat < 2 ^ s.2
  bits_eq : bits s.2 s.1.toNat = live

theorem holds_nil :
  Holds (0, 0) []
  := by
  constructor
  · rfl
  · decide
  · rfl

namespace Holds

variable {word : UInt32} {n : Nat} {live : List Bool}

/-- The bits stay in the word when it is shifted to take in more, if all of them fit. -/
theorem shiftLeft_or (h : Holds (word, n) live) {k : Nat} (hk : k < 32) (hfit : n + k ≤ 32)
    {v : UInt32} (hv : v.toNat < 2 ^ k) :
  Holds ((word <<< UInt32.ofNat k) ||| v, n + k) (live ++ bits k v.toNat)
  := by
  have hplaces : (UInt32.ofNat k).toNat = k := by
    rw [UInt32.toNat_ofNat']
    omega
  have hnat := toNat_shiftLeft_or (v := v) hplaces h.lt hk hfit
  constructor
  · rw [List.length_append, length_bits, ← h.count]
  · rw [hnat]
    apply shiftLeft_or_lt h.lt hv
  · rw [hnat, bits_shiftLeft_or n hv, h.bits_eq]

/-- The word holds the last bits when the others have been given out. -/
theorem drop (h : Holds (word, n) live) {m : Nat} (hm : m ≤ n) (hn : m < 32) :
  Holds (lowBits word m, m) (live.drop (n - m))
  := by
  have hnat := toNat_lowBits word hn
  have hsplit := bits_add (n - m) m word.toNat
  constructor
  · have hcount := h.count
    rw [List.length_drop]
    dsimp only at hcount ⊢
    omega
  · rw [hnat]
    apply Nat.mod_lt _ (Nat.two_pow_pos m)
  · rw [Nat.sub_add_cancel hm, h.bits_eq] at hsplit
    rw [hnat, bits_mod, hsplit, List.drop_left' (length_bits (n - m) _)]

/-- The word holds what is left over when the groups are given out. -/
theorem leftOver (h : Holds (word, n) live) {k : Nat} (hk : 0 < k) (hsmall : k ≤ 32) :
  Holds (lowBits word (n % k), n % k) (leftOver k live)
  := by
  have hmod : n % k < k := Nat.mod_lt n hk
  have hcount : n = live.length := h.count
  have hgiven : n - n % k = k * (live.length / k) := by
    rw [← hcount]
    have := Nat.div_add_mod n k
    omega
  rw [Symbols.leftOver, ← hgiven]
  apply h.drop (Nat.mod_le n k) (by omega)

theorem count_lt {s : UInt32 × Nat} {k : Nat} (h : Holds s (Symbols.leftOver k live)) (hk : 0 < k) :
  s.2 < k
  := by
  rw [h.count, length_leftOver]
  apply Nat.mod_lt _ hk

end Holds

/-- The word holds the bits, and does so when it is shifted by at most `room` places to take in as
many bits. -/
def Keeps (s : UInt32 × Nat) (live : List Bool) (room : Nat) : Prop :=
  Holds s live ∧ ∀ k ≤ room, ∀ v : UInt32, v.toNat < 2 ^ k →
    Holds ((s.1 <<< UInt32.ofNat k) ||| v, s.2 + k) (live ++ bits k v.toNat)

theorem Holds.keeps {s : UInt32 × Nat} {live : List Bool} (h : Holds s live) {room : Nat}
    (hroom : room < 32) (hfit : s.2 + room ≤ 32) :
  Keeps s live room
  := by
  use h
  intro k hk v hv
  apply h.shiftLeft_or (by omega) (by omega) hv

/-! ### The word while writing -/

/-- The word and the number of bits that have no symbol yet, one octet later. -/
def takeOctet (s : UInt32 × Nat) (b : UInt8) : UInt32 × Nat :=
  (lowBits ((s.1 <<< 8) ||| b.toUInt32) ((s.2 + 8) % 5), (s.2 + 8) % 5)

/-- The word and the number of bits that have no symbol yet, behind octets. -/
def writing (bs : Bytes) : UInt32 × Nat :=
  bs.foldl takeOctet (0, 0)

theorem length_filled (word : UInt32) (n : Nat) :
  (filled word n).length = n / 5
  := by
  fun_induction filled word n with
  | case1 n ih =>
    rw [List.length_cons, ih]
    omega
  | case2 n hn =>
    rw [Nat.div_eq_of_lt (lt_of_not_filled hn)]
    rfl

/-- Behind octets, writing goes on with the word that they leave. -/
theorem encodeFrom_append (front : Bytes) (s : UInt32 × Nat) (hs : s.2 < 5) :
  ∃ done, done.length = (s.2 + 8 * front.length) / 5 ∧ ∀ back,
    encodeFrom s.1 s.2 (front ++ back) =
      done ++ encodeFrom (front.foldl takeOctet s).1 (front.foldl takeOctet s).2 back
  := by
  induction front generalizing s with
  | nil =>
    use []
    constructor
    · rw [List.length_nil, List.length_nil, Nat.mul_zero, Nat.add_zero, Nat.div_eq_of_lt hs]
    · intro back
      rfl
  | cons b front ih =>
    obtain ⟨done, hlength, hdone⟩ := ih (takeOctet s b) (Nat.mod_lt _ (by decide))
    use filled ((s.1 <<< 8) ||| b.toUInt32) (s.2 + 8) ++ done
    constructor
    · rw [List.length_append, length_filled, hlength, List.length_cons, takeOctet]
      omega
    · intro back
      rw [List.cons_append, encodeFrom, List.append_assoc, List.foldl_cons]
      apply congrArg _ (hdone back)

theorem holds_takeOctet {s : UInt32 × Nat} {live : List Bool} (h : Holds s live) (hs : s.2 < 5)
    (b : UInt8) :
  Holds (takeOctet s b) (leftOver 5 (live ++ bits 8 b.toNat))
  := by
  have hshift := h.shiftLeft_or (k := 8) (by decide) (by omega) (toNat_toUInt32_lt b)
  rw [UInt8.toNat_toUInt32] at hshift
  apply hshift.leftOver (by decide) (by decide)

/-- Behind octets, the word holds the bits that fill no symbol yet. -/
theorem holds_writing (bs : Bytes) :
  Holds (writing bs) (leftOver 5 (octetBits bs))
  := by
  induction bs using List.reverseRecOn with
  | nil => exact holds_nil
  | append_singleton bs b ih =>
    have hbits : octetBits (bs ++ [b]) = octetBits bs ++ bits 8 b.toNat := by
      rw [octetBits_append]
      rfl
    rw [writing, List.foldl_concat, hbits, ← leftOver_append]
    apply holds_takeOctet ih (ih.count_lt (by decide))

/-- Behind octets there is room for the next one, and for the zeros that fill the last symbol. -/
theorem keeps_writing (bs : Bytes) :
  Keeps (writing bs) (leftOver 5 (octetBits bs)) 8
  := by
  have h := holds_writing bs
  have hcount := h.count_lt (by decide)
  apply h.keeps (by decide) (by omega)

/-! ### The word while reading -/

/-- The word and the number of bits that fill no octet yet, one character later. -/
def takeChar (s : UInt32 × Nat) (c : Char) : UInt32 × Nat :=
  if isSeparator c then s
  else match value? c with
    | none => s
    | some v =>
      let word := (s.1 <<< 5) ||| v
      if s.2 < 3 then (word, s.2 + 5) else (lowBits word (s.2 - 3), s.2 - 3)

/-- The word and the number of bits that fill no octet yet, behind characters. -/
def reading (cs : List Char) : UInt32 × Nat :=
  cs.foldl takeChar (0, 0)

/-- A character that is read changes nothing if it is a separator, and is a symbol of five bits
otherwise. -/
theorem IsRead.cases {c : Char} (h : IsRead c) :
  (isSeparator c = true ∧ textBits [c] = []) ∨
    (isSeparator c = false ∧ ∃ v, value? c = some v ∧ textBits [c] = bits 5 v.toNat)
  := by
  cases hc : isSeparator c with
  | true =>
    left
    use rfl
    rw [textBits, List.filter_cons, hc]
    rfl
  | false =>
    right
    rcases isRead_iff.1 h with hseparator | hvalue
    · rw [hseparator] at hc
      cases hc
    · obtain ⟨v, hv⟩ := Option.isSome_iff_exists.1 hvalue
      use rfl, v, hv
      rw [textBits, List.filter_cons, hc, if_pos (by rfl), List.filter_nil, List.flatMap_singleton,
        symbolBits, hv]

theorem takeChar_separator (s : UInt32 × Nat) {c : Char} (h : isSeparator c = true) :
  takeChar s c = s
  := if_pos h

theorem takeChar_symbol (s : UInt32 × Nat) {c : Char} (h : isSeparator c = false) {v : UInt32}
    (hv : value? c = some v) :
  takeChar s c =
    if s.2 < 3 then ((s.1 <<< 5) ||| v, s.2 + 5)
    else (lowBits ((s.1 <<< 5) ||| v) (s.2 - 3), s.2 - 3)
  := by
  rw [takeChar, h, hv, if_neg Bool.false_ne_true]

theorem map_nil_append (r : Except KeyError Bytes) :
  r.map ([] ++ ·) = r
  := by
  cases r <;> rfl

/-- A character that is read gives out an octet as soon as there are eight bits. -/
theorem decodeFrom_cons {c : Char} (h : IsRead c) {s : UInt32 × Nat} (hs : s.2 < 8) :
  (takeChar s c).2 = (s.2 + (textBits [c]).length) % 8 ∧
    ∃ done, done.length = (s.2 + (textBits [c]).length) / 8 ∧ ∀ back,
      decodeFrom s.1 s.2 (c :: back) =
        (decodeFrom (takeChar s c).1 (takeChar s c).2 back).map (done ++ ·)
  := by
  rcases h.cases with ⟨hc, hbits⟩ | ⟨hc, v, hv, hbits⟩
  · rw [hbits, List.length_nil, Nat.add_zero, takeChar_separator s hc]
    use (Nat.mod_eq_of_lt hs).symm, [], (Nat.div_eq_of_lt hs).symm
    intro back
    rw [decodeFrom, if_pos hc, map_nil_append]
  · rw [hbits, length_bits, takeChar_symbol s hc hv]
    split
    · rename_i hfew
      constructor
      · dsimp only
        omega
      · use [], by rw [List.length_nil]; omega
        intro back
        rw [decodeFrom, hc, hv, if_neg Bool.false_ne_true]
        dsimp only
        rw [if_pos hfew, map_nil_append]
    · rename_i hmany
      constructor
      · dsimp only
        omega
      · use [(((s.1 <<< 5) ||| v) >>> UInt32.ofNat (s.2 - 3)).toUInt8],
          by rw [List.length_singleton]; omega
        intro back
        rw [decodeFrom, hc, hv, if_neg Bool.false_ne_true]
        dsimp only
        rw [if_neg hmany]
        cases decodeFrom _ _ back <;> rfl

/-- Behind characters that are read, reading goes on with the word that they leave. -/
theorem decodeFrom_append {front : List Char} (hfront : ∀ c ∈ front, IsRead c) {s : UInt32 × Nat}
    (hs : s.2 < 8) :
  ∃ done, done.length = (s.2 + (textBits front).length) / 8 ∧ ∀ back,
    decodeFrom s.1 s.2 (front ++ back) =
      (decodeFrom (front.foldl takeChar s).1 (front.foldl takeChar s).2 back).map (done ++ ·)
  := by
  induction front generalizing s with
  | nil =>
    use [], (Nat.div_eq_of_lt hs).symm
    intro back
    rw [List.nil_append, List.foldl_nil, map_nil_append]
  | cons c front ih =>
    rw [List.forall_mem_cons] at hfront
    obtain ⟨hcount, done, hlength, hdone⟩ := decodeFrom_cons hfront.1 hs
    obtain ⟨done', hlength', hdone'⟩ := ih hfront.2 (s := takeChar s c) (by omega)
    have hbits : textBits (c :: front) = textBits [c] ++ textBits front := textBits_append [c] front
    use done ++ done'
    constructor
    · rw [hbits, List.length_append, List.length_append, hlength, hlength', hcount]
      omega
    · intro back
      rw [List.cons_append, hdone, hdone', List.foldl_cons]
      cases decodeFrom _ _ back with
      | error e => rfl
      | ok bs => apply congrArg Except.ok (List.append_assoc done done' bs).symm

theorem holds_takeChar {s : UInt32 × Nat} {live : List Bool} (h : Holds s live) (hs : s.2 < 8)
    {c : Char} (hc : IsRead c) :
  Holds (takeChar s c) (leftOver 8 (live ++ textBits [c]))
  := by
  rcases hc.cases with ⟨hc, hbits⟩ | ⟨hc, v, hv, hbits⟩
  · have hcount := h.count
    rw [hbits, List.append_nil, takeChar_separator s hc, leftOver_of_length_lt (by omega)]
    apply h
  · have hshift := h.shiftLeft_or (k := 5) (by decide) (by omega) (value?_lt hv)
    rw [hbits, takeChar_symbol s hc hv]
    split
    · rename_i hfew
      rw [leftOver_of_length_lt (by rw [← hshift.count]; dsimp only; omega)]
      apply hshift
    · rename_i hmany
      have hmod : (s.2 + 5) % 8 = s.2 - 3 := by omega
      rw [← hmod]
      apply hshift.leftOver (by decide) (by decide)

/-- Behind characters that are read, the word holds the bits that fill no octet yet. -/
theorem holds_reading {cs : List Char} (h : ∀ c ∈ cs, IsRead c) :
  Holds (reading cs) (leftOver 8 (textBits cs))
  := by
  induction cs using List.reverseRecOn with
  | nil => exact holds_nil
  | append_singleton cs c ih =>
    rw [List.forall_mem_append, List.forall_mem_singleton] at h
    rw [reading, List.foldl_concat, textBits_append, ← leftOver_append]
    apply holds_takeChar (ih h.1) ((ih h.1).count_lt (by decide)) h.2

/-- Behind characters that are read there is room for the next symbol. -/
theorem keeps_reading {cs : List Char} (h : ∀ c ∈ cs, IsRead c) :
  Keeps (reading cs) (leftOver 8 (textBits cs)) 5
  := by
  have hholds := holds_reading h
  have hcount := hholds.count_lt (by decide)
  apply hholds.keeps (by decide) (by omega)

/-! ### Writing and reading as bits -/

/-- Reading fails at the first character that is not read. -/
theorem decode_eq_error_iff {cs : List Char} {e : KeyError} :
  decode cs = .error e ↔
    ∃ front c back, cs = front ++ c :: back ∧ (∀ d ∈ front, IsRead d) ∧ ¬ IsRead c ∧
      e = .invalidSymbol c
  := by
  have herror {front : List Char} {c : Char} (back : List Char) (hfront : ∀ d ∈ front, IsRead d)
      (hc : ¬ IsRead c) : decode (front ++ c :: back) = .error (.invalidSymbol c) := by
    obtain ⟨done, -, hdone⟩ := decodeFrom_append hfront (s := (0, 0)) (by decide)
    rw [isRead_iff, not_or, Bool.not_eq_true, Bool.not_eq_true, Option.isSome_eq_false_iff,
      Option.isNone_iff_eq_none] at hc
    rw [decode, hdone, decodeFrom, hc.1, hc.2]
    rfl
  constructor
  · intro h
    rcases forall_isRead_or_split cs with hcs | ⟨front, c, back, rfl, hfront, hc⟩
    · rw [decode_eq fun c hc => isRead_iff.1 (hcs c hc)] at h
      cases h
    · rw [herror back hfront hc] at h
      cases h
      use front, c, back
  · rintro ⟨front, c, back, rfl, hfront, hc, rfl⟩
    apply herror back hfront hc

/-- Otherwise it gives as many octets as are filled, with the first bits of the symbols. -/
theorem decode_eq_ok_iff_bits {cs : List Char} {bs : Bytes} :
  decode cs = .ok bs ↔
    (∀ c ∈ cs, IsRead c) ∧ bs.length = 5 * (KeyText.symbols cs).length / 8 ∧
      octetBits bs = (textBits cs).take (8 * bs.length)
  := by
  simp only [decode_eq_ok_iff, ← isRead_iff]
  apply and_congr_right
  intro h
  rw [octets_eq_iff, length_textBits h]

/-- Octets are written as as many symbols as their bits need, which have these bits, the first
ones first, and zeros behind them; what is written is read back. A text is read unless one of its
characters is no dash, no blank character and no symbol of either case: then the first such
character is the error. Otherwise it has as many octets as the bits of its symbols fill, with
these bits. At every place of octets, and of a text that is read, the word with which writing and
reading go on holds the bits that have not been given out, and does so when it is shifted to take
in the next ones. -/
theorem encode_decode_bits :
  (∀ i : Fin 32, symbolBits (alphabet.get i) = bits 5 i ∧
    symbolBits (alphabet.get i).toLower = bits 5 i) ∧
  (∀ bs, (encode bs).length = (8 * bs.length + 4) / 5 ∧ (∀ c ∈ encode bs, c ∈ alphabet) ∧
    (encode bs).flatMap symbolBits =
      octetBits bs ++ List.replicate (5 * (encode bs).length - 8 * bs.length) false ∧
    decode (encode bs) = .ok bs) ∧
  (∀ cs e, decode cs = .error e ↔
    ∃ front c back, cs = front ++ c :: back ∧ (∀ d ∈ front, IsRead d) ∧ ¬ IsRead c ∧
      e = .invalidSymbol c) ∧
  (∀ cs bs, decode cs = .ok bs ↔
    (∀ c ∈ cs, IsRead c) ∧ bs.length = 5 * (KeyText.symbols cs).length / 8 ∧
      octetBits bs = (textBits cs).take (8 * bs.length)) ∧
  (∀ front, Keeps (writing front) (leftOver 5 (octetBits front)) 8 ∧
    ∃ done, done.length = 8 * front.length / 5 ∧ ∀ back,
      encode (front ++ back) = done ++ encodeFrom (writing front).1 (writing front).2 back) ∧
  (∀ front, (∀ c ∈ front, IsRead c) → Keeps (reading front) (leftOver 8 (textBits front)) 5 ∧
    ∃ done, done.length = 5 * (KeyText.symbols front).length / 8 ∧ ∀ back,
      decode (front ++ back) =
        (decodeFrom (reading front).1 (reading front).2 back).map (done ++ ·))
  := by
  refine ⟨symbolBits_get, ?written, fun _ _ => decode_eq_error_iff,
    fun _ _ => decode_eq_ok_iff_bits, ?writing, ?reading⟩
  case written =>
    intro bs
    have hpad : padding (8 * bs.length) = 5 * (encode bs).length - 8 * bs.length := by
      rw [length_encode, padding]
      omega
    use length_encode bs, fun c hc => mem_alphabet_of_mem_encode hc
    rw [← hpad]
    use symbolBits_encode bs, decode_encode bs
  case writing =>
    intro front
    use keeps_writing front
    obtain ⟨done, hlength, hdone⟩ := encodeFrom_append front (0, 0) (by decide)
    use done, by rw [hlength, Nat.zero_add], hdone
  case reading =>
    intro front hfront
    use keeps_reading hfront
    obtain ⟨done, hlength, hdone⟩ := decodeFrom_append hfront (s := (0, 0)) (by decide)
    use done, by rw [hlength, Nat.zero_add, length_textBits hfront], hdone

/-- Two octets in a text with small letters, a dash and a blank character, a text with a digit that
is no symbol, and the word in the middle of a text. -/
theorem encode_decode_bits_grouped :
  (∀ c ∈ [' ', 'a', 'b', '-'], IsRead c) ∧
    decode [' ', 'a', 'b', '-', 'c', '2'] = .ok [0x42, 0x54] ∧
    decode ['a', '0', 'b'] = .error (.invalidSymbol '0') ∧
    Keeps (reading [' ', 'a', 'b', '-']) [false, true] 5
  := by
  obtain ⟨-, -, herror, hok, -, hreading⟩ := encode_decode_bits
  have hfront : ∀ c ∈ [' ', 'a', 'b', '-'], IsRead c := List.all_iff_forall_prop.1 (by decide)
  refine ⟨hfront, ?_, ?_, (hreading _ hfront).1⟩
  · rw [hok]
    use List.all_iff_forall_prop.1 (by decide)
    decide
  · rw [herror]
    use ['a'], '0', ['b'], rfl, List.all_iff_forall_prop.1 (by decide)
    decide

end Entitlement.Symbols
