import Entitlement.Proofs.Key.Value

/-!
# Records as pieces

What reading takes off the front of a payload is a `Piece`: a known field as it is written,
with three more octets behind a truth value in the long form, or a field that is passed
over. Whether an octet string begins with a piece depends on what was read before it, namely
on whether the long form has been met, and on the octet behind it; all of this is in
`Piece.Fits`.

A piece in front is read as that piece (`Reading.run_piece`), and a payload that can be read
is a list of pieces with the end mark behind them, which gives an induction over everything
that can be read (`Reading.run_induction`).
-/

namespace Entitlement

/-! ### Pieces -/

/-- A record as it stands in a key. -/
inductive Piece where
  /-- A field under a known index: its record, and the octets between it and the next one. -/
  | field (i : FieldIndex) (v : FieldValue) (written padding : Bytes)
  /-- A field that is passed over. -/
  | skipped (i : FieldIndex) (body : Bytes)
deriving DecidableEq

/-- The octets behind a value, depending on whether truth values are in the long form and on
the octet that comes next. -/
inductive Padded (wide : Bool) (next : Option UInt8) : FieldValue → Bytes → Prop where
  /-- Nothing stands behind a value that is no truth value. -/
  | plain {v : FieldValue} (hv : v.type ≠ .bool) : Padded wide next v []
  /-- Nothing stands behind a truth value in the short form. -/
  | short {x : Bool} (hwide : wide = false) (hnext : next ≠ some 0) :
    Padded wide next (.bool x) []
  /-- Three octets stand behind a truth value in the long form. -/
  | long {x : Bool} {padding : Bytes} (hlength : padding.length = 3)
    (hwide : wide = true ∨ padding.head? = some 0) : Padded wide next (.bool x) padding

namespace Piece

/-- The index of a piece. -/
def index : Piece → FieldIndex
  | field i .. => i
  | skipped i _ => i

/-- The octets of a piece. -/
def octets : Piece → Bytes
  | field _ _ written padding => written ++ padding
  | skipped i body => i.value :: UInt8.ofNat body.length :: body

/-- The piece can be read as such. -/
def Fits (wide : Bool) (next : Option UInt8) : Piece → Prop
  | field i v written padding =>
    i.record v = .ok written ∧ v.kept = v ∧ Padded wide next v padding
  | skipped i body => i.type? = none ∧ i.isCritical = false ∧ body.length ≤ 255

end Piece

/-- What reading a piece at an offset makes of what has been read. -/
def Reading.after (r : Reading) (offset : Nat) : Piece → Except KeyError Reading
  | .field i v _ padding => r.begin.field offset i v (r.longBooleans || !padding.isEmpty)
  | .skipped .. => .ok r.begin

/-! ### Indices -/

namespace FieldIndex

theorem type?_cases {i : FieldIndex} {t : FieldType} (h : i.type? = some t) :
  ∃ name, (i, t, name) ∈ table
  := by
  obtain ⟨⟨t', name⟩, hentry, rfl⟩ := Option.map_eq_some_iff.1 h
  obtain ⟨⟨j, e⟩, hfind, rfl⟩ := Option.map_eq_some_iff.1 hentry
  use name
  have hi : j = i := by simpa using List.find?_some hfind
  subst hi
  apply List.mem_of_find?_eq_some hfind

theorem isPrefixed_of_bool {i : FieldIndex} (h : i.type? = some .bool) :
  i.isPrefixed = false
  := by
  have htable : ∀ e ∈ table, e.2.1 = .bool → e.1.isPrefixed = false := by decide
  obtain ⟨name, hmem⟩ := type?_cases h
  apply htable _ hmem rfl

theorem value_ne_zero_of_type? {i : FieldIndex} {t : FieldType} (h : i.type? = some t) :
  i.value ≠ 0
  := by
  have htable : ∀ e ∈ table, e.1.value ≠ 0 := by decide
  obtain ⟨name, hmem⟩ := type?_cases h
  apply htable _ hmem

theorem value_ne_zero_of_not_isCritical {i : FieldIndex} (h : i.isCritical = false) :
  i.value ≠ 0
  := by
  intro hi
  rw [isCritical, hi] at h
  cases h

theorem record_eq_ok_iff {i : FieldIndex} {v : FieldValue} {bs : Bytes} :
  i.record v = .ok bs ↔ i.type? = some v.type ∧ ∃ body, v.write i = .ok body ∧
    bs = if i.isPrefixed then i.value :: UInt8.ofNat body.length :: body else i.value :: body
  := by
  unfold record
  constructor
  · intro h
    split at h
    · rename_i hi
      use hi
      cases hbody : v.write i with
      | error e =>
        rw [hbody] at h
        cases h
      | ok body =>
        rw [hbody] at h
        cases h
        use body, rfl
    · cases h
  · rintro ⟨hi, body, hbody, rfl⟩
    rw [if_pos hi, hbody]
    rfl

end FieldIndex

/-! ### Reading one record -/

namespace Reader

variable {α : Type}

theorem lift_eq_ok_iff {x : Except KeyError α} {a : α} {bs rest : Bytes} :
  (liftM x : Reader α) bs = .ok (a, rest) ↔ x = .ok a ∧ bs = rest
  := by
  cases x with
  | error e =>
    constructor
    · intro h
      cases h
    · rintro ⟨h, -⟩
      cases h
  | ok b =>
    change Except.ok (b, bs) = .ok (a, rest) ↔ _
    rw [Except.ok.injEq, Except.ok.injEq, Prod.mk.injEq]

theorem bind_of_ok {β : Type} {m : Reader α} {f : α → Reader β} {bs mid : Bytes} {a : α}
    (h : m bs = .ok (a, mid)) :
  (m >>= f) bs = f a mid
  := by
  change (m bs >>= fun p => f p.1 p.2) = _
  rw [h]
  rfl

theorem framed_write {i : FieldIndex} {v : FieldValue} {body : Bytes}
    (h : v.write i = .ok body) (hi : i.isPrefixed = true) (rest : Bytes) :
  framed i v.type (UInt8.ofNat body.length :: (body ++ rest)) = .ok (v.kept, rest)
  := by
  have hlength := valueLength_write h []
  have hvalue := value_write h []
  rw [List.append_nil] at hlength hvalue
  apply bind_eq_ok_iff.2
  use body, rest, counted_eq_ok_iff.2 ⟨rfl, length_write_le h hi⟩
  apply bind_eq_ok_iff.2
  use body.length, rest, lift_eq_ok_iff.2 ⟨hlength, rfl⟩
  rw [if_pos rfl]
  apply bind_eq_ok_iff.2
  use (v.kept, []), rest, lift_eq_ok_iff.2 ⟨hvalue, rfl⟩
  rfl

theorem write_of_framed {i : FieldIndex} {t : FieldType} {v : FieldValue} {bs rest : Bytes}
    (h : framed i t bs = .ok (v, rest)) :
  v.type = t ∧ v.kept = v ∧ ∃ body, v.write i = .ok body ∧
    bs = UInt8.ofNat body.length :: (body ++ rest)
  := by
  obtain ⟨front, mid, hfront, h₁⟩ := bind_eq_ok_iff.1 h
  obtain ⟨rfl, hle⟩ := counted_eq_ok_iff.1 hfront
  obtain ⟨expected, mid', hexpected, h₂⟩ := bind_eq_ok_iff.1 h₁
  obtain ⟨hlength, rfl⟩ := lift_eq_ok_iff.1 hexpected
  by_cases hfit : front.length = expected
  · rw [if_pos hfit] at h₂
    obtain ⟨⟨v', left⟩, mid', hlift, h₃⟩ := bind_eq_ok_iff.1 h₂
    obtain ⟨hv, rfl⟩ := lift_eq_ok_iff.1 hlift
    obtain ⟨rfl, rfl⟩ := pure_eq_ok_iff.1 h₃
    obtain ⟨rfl, hkept, body, rfl, hwrite⟩ := write_of_value hv
    have hbody := hwrite fun _ => by
      rw [List.length_append] at hle
      omega
    -- The length of the value is that of all octets, so that none are left over.
    have hleft : left = [] := by
      rw [valueLength_write hbody left, Except.ok.injEq] at hlength
      rw [List.length_append] at hfit
      apply List.eq_nil_of_length_eq_zero
      omega
    subst hleft
    use rfl, hkept, body, hbody
    rw [List.append_nil]
  · rw [if_neg hfit] at h₂
    cases h₂

theorem bare_of_ne_bool {i : FieldIndex} {wide : Bool} {t : FieldType} (ht : t ≠ .bool) :
  bare i wide t = do
    let v ← value i t
    return (v, wide)
  := by
  cases t with
  | bool => exact absurd rfl ht
  | _ => rfl

theorem bare_bool_write {i : FieldIndex} {wide x : Bool} {padding rest : Bytes}
    (h : Padded wide rest.head? (.bool x) padding) :
  bare i wide .bool ((if x then 1 else 0) :: (padding ++ rest)) =
    .ok ((.bool x, wide || !padding.isEmpty), rest)
  := by
  apply bind_eq_ok_iff.2
  use if x then 1 else 0, padding ++ rest, rfl
  apply bind_eq_ok_iff.2
  use (padding ++ rest).head?, padding ++ rest, rfl
  cases h with
  | plain hv => exact absurd rfl hv
  | short hwide hnext =>
    subst hwide
    rw [List.nil_append, if_neg (by simpa using hnext)]
    apply bind_eq_ok_iff.2
    use .bool x, rest, boolean_eq_ok_iff.2 ⟨x, rfl, rfl, rfl⟩
    apply pure_eq_ok_iff.2
    simpa using hnext
  | long hlength hwide =>
    cases padding with
    | nil => cases hlength
    | cons c padding =>
      have hwide' : (wide || decide ((c :: padding ++ rest).head? = some 0)) = true := by
        simpa using hwide
      rw [if_pos hwide', hwide']
      apply bind_eq_ok_iff.2
      use c :: padding, rest, octets_eq_ok_iff.2 ⟨rfl, hlength⟩
      apply bind_eq_ok_iff.2
      use .bool x, rest, boolean_eq_ok_iff.2 ⟨x, rfl, rfl, rfl⟩
      apply pure_eq_ok_iff.2
      simp

theorem write_of_bare_bool {i : FieldIndex} {wide wide' : Bool} {v : FieldValue}
    {bs rest : Bytes} (h : bare i wide .bool bs = .ok ((v, wide'), rest)) :
  ∃ (x : Bool) (padding : Bytes), v = .bool x ∧
    bs = (if x then 1 else 0) :: (padding ++ rest) ∧ wide' = (wide || !padding.isEmpty) ∧
    Padded wide rest.head? (.bool x) padding
  := by
  obtain ⟨b, mid, hb, h₁⟩ := bind_eq_ok_iff.1 h
  cases octet_eq_ok_iff.1 hb
  obtain ⟨next, mid', hnext, h₂⟩ := bind_eq_ok_iff.1 h₁
  cases hnext
  by_cases hwide : (wide || decide (mid.head? = some 0)) = true
  · rw [if_pos hwide] at h₂
    obtain ⟨padding, mid', hpadding, h₃⟩ := bind_eq_ok_iff.1 h₂
    obtain ⟨rfl, hlength⟩ := octets_eq_ok_iff.1 hpadding
    obtain ⟨v', mid'', hv, h₄⟩ := bind_eq_ok_iff.1 h₃
    obtain ⟨x, rfl, rfl, rfl⟩ := boolean_eq_ok_iff.1 hv
    obtain ⟨heq, rfl⟩ := pure_eq_ok_iff.1 h₄
    cases heq
    cases padding with
    | nil => cases hlength
    | cons c padding =>
      use x, c :: padding, rfl, rfl
      constructor
      · rw [hwide]
        simp
      · apply Padded.long hlength
        simpa using hwide
  · rw [if_neg hwide] at h₂
    obtain ⟨v', mid'', hv, h₃⟩ := bind_eq_ok_iff.1 h₂
    obtain ⟨x, rfl, rfl, rfl⟩ := boolean_eq_ok_iff.1 hv
    obtain ⟨heq, rfl⟩ := pure_eq_ok_iff.1 h₃
    cases heq
    simp only [Bool.or_eq_true, decide_eq_true_eq, not_or, Bool.not_eq_true] at hwide
    use x, [], rfl, rfl
    constructor
    · simp [hwide.1, hwide.2]
    · apply Padded.short hwide.1 hwide.2

theorem bare_write {i : FieldIndex} {wide : Bool} {v : FieldValue} {body padding rest : Bytes}
    (h : v.write i = .ok body) (hkept : v.kept = v) (hpadded : Padded wide rest.head? v padding) :
  bare i wide v.type (body ++ (padding ++ rest)) =
    .ok ((v, wide || !padding.isEmpty), rest)
  := by
  cases v with
  | bool x =>
    cases h
    apply bare_bool_write hpadded
  | _ =>
    cases hpadded
    rw [bare_of_ne_bool (by rintro ⟨⟩), bind_of_ok (value_write h _), hkept]
    simp
    rfl

theorem write_of_bare {i : FieldIndex} {wide wide' : Bool} {t : FieldType} {v : FieldValue}
    {bs rest : Bytes} (h : bare i wide t bs = .ok ((v, wide'), rest))
    (hi : i.isPrefixed = false) :
  v.type = t ∧ v.kept = v ∧ ∃ body padding, v.write i = .ok body ∧
    bs = body ++ (padding ++ rest) ∧ wide' = (wide || !padding.isEmpty) ∧
    Padded wide rest.head? v padding
  := by
  by_cases ht : t = .bool
  · subst ht
    obtain ⟨x, padding, rfl, rfl, rfl, hpadded⟩ := write_of_bare_bool h
    use rfl, rfl, [if x then 1 else 0], padding, rfl, rfl, rfl
  · rw [bare_of_ne_bool ht] at h
    obtain ⟨v', mid, hv, h₁⟩ := bind_eq_ok_iff.1 h
    obtain ⟨heq, rfl⟩ := pure_eq_ok_iff.1 h₁
    cases heq
    obtain ⟨rfl, hkept, body, rfl, hwrite⟩ := write_of_value hv
    use rfl, hkept, body, []
    constructor
    · apply hwrite
      intro hi'
      rw [hi] at hi'
      cases hi'
    · use rfl
      constructor
      · simp
      · apply Padded.plain ht

theorem skipped_eq_ok_iff {bs rest : Bytes} :
  skipped bs = .ok ((), rest) ↔
    ∃ body : Bytes, body.length ≤ 255 ∧ bs = UInt8.ofNat body.length :: (body ++ rest)
  := by
  unfold skipped
  constructor
  · intro h
    obtain ⟨body, mid, hbody, h₁⟩ := bind_eq_ok_iff.1 h
    obtain ⟨rfl, hlength⟩ := counted_eq_ok_iff.1 hbody
    obtain ⟨-, rfl⟩ := pure_eq_ok_iff.1 h₁
    use body, hlength
  · rintro ⟨body, hlength, rfl⟩
    apply bind_eq_ok_iff.2
    use body, rest, counted_eq_ok_iff.2 ⟨rfl, hlength⟩
    rfl

end Reader

namespace Reading

theorem record_unknown {i : FieldIndex} (hi : i.type? = none) (hcritical : i.isCritical = false)
    (r : Reading) (offset : Nat) :
  r.record offset i = do
    Reader.skipped
    return r.begin
  := by
  unfold record
  rw [hi, hcritical]
  rfl

theorem record_prefixed {i : FieldIndex} {t : FieldType} (hi : i.type? = some t)
    (hprefixed : i.isPrefixed = true) (r : Reading) (offset : Nat) :
  r.record offset i =
    Reader.framed i t >>= fun v => liftM (r.begin.field offset i v r.longBooleans)
  := by
  unfold record
  rw [hi, hprefixed]
  rfl

theorem record_bare {i : FieldIndex} {t : FieldType} (hi : i.type? = some t)
    (hprefixed : i.isPrefixed = false) (r : Reading) (offset : Nat) :
  r.record offset i =
    Reader.bare i r.longBooleans t >>= fun q => liftM (r.begin.field offset i q.1 q.2)
  := by
  unfold record
  rw [hi, hprefixed]
  rfl

/-- A piece in front is read as that piece. -/
theorem record_piece {r : Reading} {offset : Nat} {p : Piece} {rest : Bytes}
    (h : p.Fits r.longBooleans rest.head?) :
  ∃ tail, p.octets = p.index.value :: tail ∧
    r.record offset p.index (tail ++ rest) = (r.after offset p).map fun r => (r, rest)
  := by
  have hlift (x : Except KeyError Reading) :
      (liftM x : Reader Reading) rest = x.map fun r => (r, rest) := by
    cases x <;> rfl
  cases p with
  | skipped i body =>
    obtain ⟨hi, hcritical, hlength⟩ := h
    use UInt8.ofNat body.length :: body, rfl
    rw [Piece.index, record_unknown hi hcritical, List.cons_append,
      Reader.bind_of_ok (Reader.skipped_eq_ok_iff.2 ⟨body, hlength, rfl⟩)]
    rfl
  | field i v written padding =>
    obtain ⟨hrecord, hkept, hpadded⟩ := h
    obtain ⟨hi, body, hbody, rfl⟩ := FieldIndex.record_eq_ok_iff.1 hrecord
    rw [Piece.octets, Piece.index]
    by_cases hprefixed : i.isPrefixed = true
    · have hpadding : padding = [] := by
        cases hpadded with
        | plain hv => rfl
        | short hwide hnext => rfl
        | long hlength hwide =>
          rw [FieldIndex.isPrefixed_of_bool hi] at hprefixed
          cases hprefixed
      subst hpadding
      use UInt8.ofNat body.length :: body
      constructor
      · rw [if_pos hprefixed, List.append_nil]
      · rw [record_prefixed hi hprefixed, List.cons_append,
          Reader.bind_of_ok (Reader.framed_write hbody hprefixed rest), hkept, hlift, after]
        simp
    · rw [Bool.not_eq_true] at hprefixed
      use body ++ padding
      constructor
      · rw [hprefixed]
        rfl
      · rw [record_bare hi hprefixed, List.append_assoc,
          Reader.bind_of_ok (Reader.bare_write hbody hkept hpadded)]
        apply hlift

/-- What has been read is a piece in front. -/
theorem piece_of_record {r r' : Reading} {offset : Nat} {i : FieldIndex} {bs rest : Bytes}
    (h : r.record offset i bs = .ok (r', rest)) :
  ∃ p : Piece, i.value :: bs = p.octets ++ rest ∧ p.Fits r.longBooleans rest.head? ∧
    r.after offset p = .ok r'
  := by
  cases hi : i.type? with
  | none =>
    by_cases hcritical : i.isCritical = true
    · unfold record at h
      rw [hi, hcritical] at h
      cases h
    · rw [Bool.not_eq_true] at hcritical
      rw [record_unknown hi hcritical] at h
      obtain ⟨u, mid, hskipped, h₁⟩ := Reader.bind_eq_ok_iff.1 h
      obtain ⟨body, hlength, rfl⟩ := Reader.skipped_eq_ok_iff.1 hskipped
      obtain ⟨rfl, rfl⟩ := Reader.pure_eq_ok_iff.1 h₁
      use .skipped i body, rfl, ⟨hi, hcritical, hlength⟩
      rfl
  | some t =>
    by_cases hprefixed : i.isPrefixed = true
    · rw [record_prefixed hi hprefixed] at h
      obtain ⟨v, mid, hframed, h₁⟩ := Reader.bind_eq_ok_iff.1 h
      obtain ⟨hfield, rfl⟩ := Reader.lift_eq_ok_iff.1 h₁
      obtain ⟨rfl, hkept, body, hbody, rfl⟩ := Reader.write_of_framed hframed
      use .field i v (i.value :: UInt8.ofNat body.length :: body) []
      constructor
      · simp [Piece.octets]
      · constructor
        · use FieldIndex.record_eq_ok_iff.2 ⟨hi, body, hbody, (if_pos hprefixed).symm⟩, hkept
          apply Padded.plain
          intro hv
          rw [hv] at hi
          rw [FieldIndex.isPrefixed_of_bool hi] at hprefixed
          cases hprefixed
        · rw [after, ← hfield]
          simp
    · rw [Bool.not_eq_true] at hprefixed
      rw [record_bare hi hprefixed] at h
      obtain ⟨⟨v, wide⟩, mid, hbare, h₁⟩ := Reader.bind_eq_ok_iff.1 h
      obtain ⟨hfield, rfl⟩ := Reader.lift_eq_ok_iff.1 h₁
      obtain ⟨rfl, hkept, body, padding, hbody, rfl, rfl, hpadded⟩ :=
        Reader.write_of_bare hbare hprefixed
      have hrecord : i.record v = .ok (i.value :: body) := by
        apply FieldIndex.record_eq_ok_iff.2
        use hi, body, hbody
        rw [hprefixed]
        rfl
      use .field i v (i.value :: body) padding
      constructor
      · simp [Piece.octets]
      · use ⟨hrecord, hkept, hpadded⟩, hfield

/-! ### Reading all records -/

theorem run_end (size : Nat) (r : Reading) :
  r.run size [FieldIndex.endMark.value] = .ok r.toDecoded
  := by
  unfold run
  rfl

theorem run_cons {size : Nat} {r : Reading} {i : FieldIndex} (hi : i ≠ .endMark)
    (bs : Bytes) :
  r.run size (i.value :: bs) =
    r.record (size - (bs.length + 1)) i bs >>= fun q => q.1.run size q.2
  := by
  have hvalue : i.value ≠ FieldIndex.endMark.value := by
    intro h
    apply hi
    cases i
    cases h
    rfl
  rw [run, if_neg hvalue]
  split
  · rename_i e he
    rw [he]
    rfl
  · rename_i next rest hnext
    apply (congrArg (· >>= fun q : Reading × Bytes => q.1.run size q.2) hnext).symm

end Reading

namespace Piece

theorem octets_eq_cons {wide : Bool} {next : Option UInt8} {p : Piece} (h : p.Fits wide next) :
  ∃ tail, p.octets = p.index.value :: tail ∧ p.index ≠ .endMark ∧ p.index.value ≠ 0
  := by
  cases p with
  | skipped i body =>
    obtain ⟨-, hcritical, -⟩ := h
    use UInt8.ofNat body.length :: body, rfl
    constructor
    · rintro hi
      rw [index] at hi
      rw [hi] at hcritical
      cases hcritical
    · apply FieldIndex.value_ne_zero_of_not_isCritical hcritical
  | field i v written padding =>
    obtain ⟨hrecord, -, -⟩ := h
    obtain ⟨hi, body, -, rfl⟩ := FieldIndex.record_eq_ok_iff.1 hrecord
    have hend : i ≠ .endMark := by
      rintro rfl
      cases hi
    rw [octets, index]
    split
    · use UInt8.ofNat body.length :: (body ++ padding), rfl, hend
      apply FieldIndex.value_ne_zero_of_type? hi
    · use body ++ padding, rfl, hend
      apply FieldIndex.value_ne_zero_of_type? hi

end Piece

namespace Reading

/-- A piece in front is read, and then the rest is. -/
theorem run_piece {size : Nat} {r : Reading} {p : Piece} {rest : Bytes}
    (h : p.Fits r.longBooleans rest.head?) :
  r.run size (p.octets ++ rest) =
    r.after (size - (p.octets ++ rest).length) p >>= fun r' => r'.run size rest
  := by
  obtain ⟨tail, htail, hend, -⟩ := p.octets_eq_cons h
  have hrecord (offset : Nat) : r.record offset p.index (tail ++ rest) =
      (r.after offset p).map fun r => (r, rest) := by
    obtain ⟨tail', htail', heq⟩ := record_piece h
    rw [htail] at htail'
    cases htail'
    apply heq
  rw [htail, List.cons_append, run_cons hend, hrecord]
  cases r.after _ p <;> rfl

/-- What can be read begins with a piece, unless it is the end mark alone. -/
theorem run_eq_ok {size : Nat} {r : Reading} {bs : Bytes} {d : Decoded}
    (h : r.run size bs = .ok d) :
  (bs = [FieldIndex.endMark.value] ∧ r.toDecoded = d) ∨
    ∃ (p : Piece) (rest : Bytes) (r' : Reading), bs = p.octets ++ rest ∧
      p.Fits r.longBooleans rest.head? ∧ r.after (size - bs.length) p = .ok r' ∧
      r'.run size rest = .ok d
  := by
  cases bs with
  | nil =>
    unfold run at h
    cases h
  | cons b bs =>
    by_cases hb : (⟨b⟩ : FieldIndex) = .endMark
    · left
      have hvalue : b = FieldIndex.endMark.value := congrArg FieldIndex.value hb
      subst hvalue
      unfold run at h
      rw [if_pos rfl] at h
      cases bs with
      | nil =>
        cases h
        use rfl
      | cons c bs => cases h
    · right
      change r.run size ((⟨b⟩ : FieldIndex).value :: bs) = _ at h
      rw [run_cons hb] at h
      cases hrecord : r.record (size - (bs.length + 1)) ⟨b⟩ bs with
      | error e =>
        rw [hrecord] at h
        cases h
      | ok q =>
        rw [hrecord] at h
        obtain ⟨p, hp, hfits, hafter⟩ := piece_of_record hrecord
        use p, q.2, q.1, hp, hfits, hafter
        apply h

/-- Induction over what can be read: from the end mark backwards, one piece at a time. -/
theorem run_induction {size : Nat} {d : Decoded}
    {motive : ∀ (r : Reading) (bs : Bytes), r.run size bs = .ok d → Prop}
    (done : ∀ r h, r.toDecoded = d → motive r [FieldIndex.endMark.value] h)
    (step : ∀ (r : Reading) (p : Piece) (rest : Bytes) (r' : Reading) (h : r.run size _ = .ok d)
      (h' : r'.run size rest = .ok d), p.Fits r.longBooleans rest.head? →
      r.after (size - (p.octets ++ rest).length) p = .ok r' →
      motive r' rest h' → motive r (p.octets ++ rest) h)
    {r : Reading} {bs : Bytes} (h : r.run size bs = .ok d) :
  motive r bs h
  := by
  induction hn : bs.length using Nat.strongRecOn generalizing r bs with
  | _ n ih =>
    rcases run_eq_ok h with ⟨rfl, hd⟩ | ⟨p, rest, r', rfl, hfits, hafter, hrun⟩
    · apply done r h hd
    · apply step r p rest r' h hrun hfits hafter
      apply ih rest.length _ hrun rfl
      obtain ⟨tail, htail, -, -⟩ := p.octets_eq_cons hfits
      rw [← hn, htail, List.cons_append, List.length_cons, List.length_append]
      omega

end Reading

end Entitlement
