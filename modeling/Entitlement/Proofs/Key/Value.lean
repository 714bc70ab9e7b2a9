import Entitlement.Key.Reader
import Mathlib.Algebra.Group.Int.Defs
import Mathlib.Tactic.Use

/-!
# Values as octets

What has been written for a value is read back as the value that a key keeps
(`Reader.value_write`), and what has been read is what is written for the value
(`Reader.write_of_value`). So a value that a key keeps and the octets it has in a key
determine each other.
-/

namespace Entitlement

/-! ### Numbers, dates and instants -/

namespace Bytes

theorem ofLittleEndian_eq {w n : Nat} (h : n < Nat.pow 256 w) :
  ofLittleEndian (littleEndian w n) = n
  := by
  rw [ofLittleEndian_littleEndian, Nat.mod_eq_of_lt h]

theorem littleEndian_eq {w : Nat} {bs : Bytes} (h : bs.length = w) :
  littleEndian w (ofLittleEndian bs) = bs
  := by
  rw [← h, littleEndian_ofLittleEndian]

theorem ofLittleEndian_lt_of_length {w : Nat} {bs : Bytes} (h : bs.length = w) :
  ofLittleEndian bs < Nat.pow 256 w
  := by
  rw [← h]
  apply ofLittleEndian_lt

theorem ofText_of_toText? {bs : Bytes} {s : String} (h : toText? bs = some s) :
  ofText s = bs
  := by
  unfold toText? String.fromUTF8? at h
  split at h
  · cases h
    rfl
  · cases h

end Bytes

theorem Date.keyDate_of_keyDays? {d : Date} {n : Nat} (h : d.keyDays? = some n) :
  n < 65536 ∧ Reader.keyDate (UInt16.ofNat n) = d
  := by
  have hepoch : Date.keyEpoch.day = 10957 := rfl
  have hlast : Date.keyLast.day = 76492 := rfl
  unfold keyDays? at h
  split at h
  · rename_i hd
    have h₁ : Date.keyEpoch.day ≤ d.day := hd.1
    have h₂ : d.day ≤ Date.keyLast.day := hd.2
    cases h
    have hn : (d.day - Date.keyEpoch.day).toNat < 65536 := by omega
    use hn
    apply Date.ext
    change Date.keyEpoch.day + (UInt16.ofNat _).toNat = d.day
    rw [UInt16.toNat_ofNat_of_lt' hn]
    omega
  · cases h

theorem Date.keyDays?_keyDate (n : UInt16) :
  (Reader.keyDate n).keyDays? = some n.toNat
  := by
  have hepoch : Date.keyEpoch.day = 10957 := rfl
  have hlast : Date.keyLast.day = 76492 := rfl
  have hday : (Reader.keyDate n).day = Date.keyEpoch.day + n.toNat := rfl
  have hn := n.toNat_lt
  have h₁ : Date.keyEpoch.day ≤ (Reader.keyDate n).day := by omega
  have h₂ : (Reader.keyDate n).day ≤ Date.keyLast.day := by omega
  rw [keyDays?, if_pos ⟨h₁, h₂⟩, hday]
  congr 1
  omega

namespace Instant

theorem millis_bounds (t : Instant) :
  -2 ^ 63 ≤ t.millis ∧ t.millis < 2 ^ 63
  := by
  have h₁ := t.first_le
  have h₂ := t.le_last
  have h₃ := t.nanos_lt
  unfold millis
  omega

theorem millis_of_ofMillis? {n : Int} {t : Instant} (h : ofMillis? n = some t) :
  t.millis = n ∧ t.floorMillis = t
  := by
  unfold ofMillis? ofSeconds? at h
  split at h
  · cases h
    constructor
    · unfold millis
      dsimp only
      omega
    · apply Instant.ext
      · rfl
      · unfold floorMillis
        dsimp only
        omega
  · cases h

theorem millis_floorMillis (t : Instant) :
  t.floorMillis.millis = t.millis
  := by
  unfold millis floorMillis
  dsimp only
  omega

theorem floorMillis_floorMillis (t : Instant) :
  t.floorMillis.floorMillis = t.floorMillis
  := (millis_of_ofMillis? (ofMillis?_millis t)).2

end Instant

namespace FieldValue

theorem kept_kept (v : FieldValue) :
  v.kept.kept = v.kept
  := by
  cases v with
  | dateTime t => apply congrArg dateTime t.floorMillis_floorMillis
  | _ => rfl

theorem write_kept (i : FieldIndex) (v : FieldValue) :
  v.kept.write i = v.write i
  := by
  cases v with
  | dateTime t => rw [kept, write, write, Instant.millis_floorMillis]
  | _ => rfl

end FieldValue

theorem FieldIndex.record_kept (i : FieldIndex) (v : FieldValue) :
  i.record v.kept = i.record v
  := by
  unfold record mismatch
  rw [FieldValue.type_kept, FieldValue.write_kept]

/-! ### Reading in steps -/

theorem eq_ok_of_toOption {ε α : Type} {x : Except ε α} {a : α} (h : x.toOption = some a) :
  x = .ok a
  := by
  cases x with
  | error e => cases h
  | ok b =>
    cases h
    rfl

/-- One thing after another succeeds when both do. -/
theorem bind_ok_iff {ε α β : Type} {x : Except ε α} {f : α → Except ε β} {b : β} :
  (x >>= f) = .ok b ↔ ∃ a, x = .ok a ∧ f a = .ok b
  := by
  cases x with
  | error e =>
    constructor
    · intro h
      cases h
    · rintro ⟨a, h, -⟩
      cases h
  | ok a =>
    constructor
    · intro h
      use a, rfl
      apply h
    · rintro ⟨a', h, h'⟩
      cases h
      apply h'

namespace Reader

variable {α β : Type}

theorem bind_eq_ok_iff {m : Reader α} {f : α → Reader β} {bs : Bytes} {b : β} {rest : Bytes} :
  (m >>= f) bs = .ok (b, rest) ↔ ∃ a mid, m bs = .ok (a, mid) ∧ f a mid = .ok (b, rest)
  := by
  change (m bs >>= fun p => f p.1 p.2) = _ ↔ _
  rw [bind_ok_iff, Prod.exists]

theorem pure_eq_ok_iff {a b : α} {bs rest : Bytes} :
  (pure a : Reader α) bs = .ok (b, rest) ↔ a = b ∧ bs = rest
  := by
  change Except.ok (a, bs) = .ok (b, rest) ↔ _
  rw [Except.ok.injEq, Prod.mk.injEq]

theorem octet_eq_ok_iff {b : UInt8} {bs rest : Bytes} :
  octet bs = .ok (b, rest) ↔ bs = b :: rest
  := by
  cases bs with
  | nil => simp [octet]
  | cons a bs => simp [octet]

theorem octets_eq_ok_iff {n : Nat} {front bs rest : Bytes} :
  octets n bs = .ok (front, rest) ↔ bs = front ++ rest ∧ front.length = n
  := by
  unfold octets
  constructor
  · intro h
    split at h
    · rename_i hn
      cases h
      use (List.take_append_drop n bs).symm
      rw [List.length_take, Nat.min_eq_left hn]
    · cases h
  · rintro ⟨rfl, rfl⟩
    rw [if_pos (by simp), List.take_left, List.drop_left]

theorem number_eq_ok_iff {w n : Nat} {bs rest : Bytes} :
  number w bs = .ok (n, rest) ↔ bs = Bytes.littleEndian w n ++ rest ∧ n < Nat.pow 256 w
  := by
  unfold number
  rw [bind_eq_ok_iff]
  constructor
  · rintro ⟨front, mid, hfront, hn⟩
    obtain ⟨rfl, hw⟩ := octets_eq_ok_iff.1 hfront
    obtain ⟨rfl, rfl⟩ := pure_eq_ok_iff.1 hn
    rw [Bytes.littleEndian_eq hw]
    use rfl
    apply Bytes.ofLittleEndian_lt_of_length hw
  · rintro ⟨rfl, hn⟩
    use Bytes.littleEndian w n, rest
    constructor
    · apply octets_eq_ok_iff.2
      use rfl
      apply Bytes.length_littleEndian
    · apply pure_eq_ok_iff.2
      use Bytes.ofLittleEndian_eq hn

theorem counted_eq_ok_iff {front bs rest : Bytes} :
  counted bs = .ok (front, rest) ↔
    bs = UInt8.ofNat front.length :: (front ++ rest) ∧ front.length ≤ 255
  := by
  unfold counted
  rw [bind_eq_ok_iff]
  constructor
  · rintro ⟨n, mid, hn, hfront⟩
    cases octet_eq_ok_iff.1 hn
    obtain ⟨rfl, hlength⟩ := octets_eq_ok_iff.1 hfront
    rw [hlength]
    constructor
    · simp
    · apply Nat.le_of_lt_succ n.toNat_lt
  · rintro ⟨rfl, hlength⟩
    use UInt8.ofNat front.length, front ++ rest
    use octet_eq_ok_iff.2 rfl
    apply octets_eq_ok_iff.2
    use rfl
    rw [UInt8.toNat_ofNat_of_lt' (Nat.lt_succ_of_le hlength)]

/-! ### Values -/

theorem boolean_eq_ok_iff {i : FieldIndex} {b : UInt8} {v : FieldValue} {bs rest : Bytes} :
  boolean i b bs = .ok (v, rest) ↔
    ∃ x : Bool, v = .bool x ∧ b = (if x then 1 else 0) ∧ bs = rest
  := by
  unfold boolean
  constructor
  · intro h
    split at h
    · rename_i hb
      obtain ⟨rfl, rfl⟩ := pure_eq_ok_iff.1 h
      use false, rfl, hb
    · split at h
      · rename_i hb
        obtain ⟨rfl, rfl⟩ := pure_eq_ok_iff.1 h
        use true, rfl, hb
      · cases h
  · rintro ⟨x, rfl, rfl, rfl⟩
    cases x <;> rfl

theorem instant_eq_ok_iff {i : FieldIndex} {millis : Int} {v : FieldValue} {bs rest : Bytes} :
  instant i millis bs = .ok (v, rest) ↔
    ∃ t, v = .dateTime t ∧ Instant.ofMillis? millis = some t ∧ bs = rest
  := by
  unfold instant
  constructor
  · intro h
    cases ht : Instant.ofMillis? millis with
    | none =>
      rw [ht] at h
      cases h
    | some t =>
      rw [ht] at h
      obtain ⟨rfl, rfl⟩ := pure_eq_ok_iff.1 h
      use t, rfl, rfl
  · rintro ⟨t, rfl, ht, rfl⟩
    rw [ht]
    rfl

theorem text_eq_ok_iff {i : FieldIndex} {front : Bytes} {v : FieldValue} {bs rest : Bytes} :
  text i front bs = .ok (v, rest) ↔
    ∃ s, v = .string s ∧ front = Bytes.ofText s ∧ bs = rest
  := by
  unfold text
  constructor
  · intro h
    cases hs : Bytes.toText? front with
    | none =>
      rw [hs] at h
      cases h
    | some s =>
      rw [hs] at h
      obtain ⟨rfl, rfl⟩ := pure_eq_ok_iff.1 h
      use s, rfl, (Bytes.ofText_of_toText? hs).symm
  · rintro ⟨s, rfl, rfl, rfl⟩
    rw [Bytes.toText?_ofText]
    rfl

theorem guid_eq_ok_iff {v : FieldValue} {bs rest : Bytes} :
  guid bs = .ok (v, rest) ↔ ∃ g, v = .guid g ∧ bs = g.octets ++ rest
  := by
  unfold guid
  rw [bind_eq_ok_iff]
  constructor
  · rintro ⟨front, mid, hfront, h⟩
    obtain ⟨rfl, hlength⟩ := octets_eq_ok_iff.1 hfront
    rw [Guid.ofBytes?, dif_pos hlength] at h
    obtain ⟨rfl, rfl⟩ := pure_eq_ok_iff.1 h
    use ⟨front, hlength⟩, rfl
  · rintro ⟨g, rfl, rfl⟩
    use g.octets, rest
    use octets_eq_ok_iff.2 ⟨rfl, g.length_octets⟩
    rw [Guid.ofBytes?, dif_pos g.length_octets]
    rfl

theorem eq_of_counted {i : FieldIndex} {front body : Bytes}
    (h : Bytes.counted i front = .ok body) :
  body = UInt8.ofNat front.length :: front ∧ front.length ≤ i.contentLimit
  := by
  unfold Bytes.counted at h
  split at h
  · rename_i hlength
    cases h
    use rfl
  · cases h

theorem eq_of_write_date {i : FieldIndex} {d : Date} {body : Bytes}
    (h : (FieldValue.date d).write i = .ok body) :
  ∃ n, d.keyDays? = some n ∧ body = Bytes.littleEndian 2 n
  := by
  rw [FieldValue.write] at h
  split at h
  · rename_i n hn
    cases h
    use n, hn
  · cases h

theorem contentLimit_le (i : FieldIndex) :
  i.contentLimit ≤ 255
  := by
  unfold FieldIndex.contentLimit
  split <;> decide

theorem counted_write {i : FieldIndex} {front body : Bytes}
    (h : Bytes.counted i front = .ok body) (rest : Bytes) :
  counted (body ++ rest) = .ok (front, rest)
  := by
  obtain ⟨rfl, hlength⟩ := eq_of_counted h
  apply counted_eq_ok_iff.2
  use rfl, Nat.le_trans hlength (contentLimit_le i)

theorem write_of_counted {i : FieldIndex} {front bs rest : Bytes}
    (h : counted bs = .ok (front, rest)) :
  ∃ body, bs = body ++ rest ∧
    ((i.isPrefixed = true → body.length ≤ 255) → Bytes.counted i front = .ok body)
  := by
  obtain ⟨rfl, hle⟩ := counted_eq_ok_iff.1 h
  use UInt8.ofNat front.length :: front, rfl
  intro hlength
  apply if_pos
  unfold FieldIndex.contentLimit
  split
  · rename_i hi
    apply Nat.le_of_succ_le_succ (hlength hi)
  · apply hle

/-- What has been written for a value is read back. -/
theorem value_write {i : FieldIndex} {v : FieldValue} {body : Bytes}
    (h : v.write i = .ok body) (rest : Bytes) :
  value i v.type (body ++ rest) = .ok (v.kept, rest)
  := by
  cases v with
  | bool x =>
    cases h
    apply bind_eq_ok_iff.2
    use if x then 1 else 0, rest
    use octet_eq_ok_iff.2 rfl
    apply boolean_eq_ok_iff.2
    use x, rfl, rfl
  | byte x =>
    cases h
    rfl
  | byteBuffer x =>
    apply bind_eq_ok_iff.2
    use x, rest, counted_write h rest
    rfl
  | date d =>
    obtain ⟨n, hn, rfl⟩ := eq_of_write_date h
    obtain ⟨hlt, hd⟩ := Date.keyDate_of_keyDays? hn
    apply bind_eq_ok_iff.2
    use n, rest, number_eq_ok_iff.2 ⟨rfl, hlt⟩
    apply pure_eq_ok_iff.2
    use congrArg FieldValue.date hd
  | dateTime t =>
    cases h
    have hmillis : (Int64.ofInt t.millis).toUInt64.toInt64.toInt = t.millis :=
      Int64.toInt_ofInt_of_le t.millis_bounds.1 t.millis_bounds.2
    apply bind_eq_ok_iff.2
    use (Int64.ofInt t.millis).toUInt64.toNat, rest
    use number_eq_ok_iff.2 ⟨rfl, UInt64.toNat_lt _⟩
    apply instant_eq_ok_iff.2
    use t.floorMillis, rfl
    rw [UInt64.ofNat_toNat, hmillis]
    use Instant.ofMillis?_millis t
  | guid g =>
    cases h
    apply guid_eq_ok_iff.2
    use g, rfl
  | int16 x =>
    cases h
    apply bind_eq_ok_iff.2
    use x.toUInt16.toNat, rest, number_eq_ok_iff.2 ⟨rfl, UInt16.toNat_lt _⟩
    rw [UInt16.ofNat_toNat]
    rfl
  | int32 x =>
    cases h
    apply bind_eq_ok_iff.2
    use x.toUInt32.toNat, rest, number_eq_ok_iff.2 ⟨rfl, UInt32.toNat_lt _⟩
    rw [UInt32.ofNat_toNat]
    rfl
  | int64 x =>
    cases h
    apply bind_eq_ok_iff.2
    use x.toUInt64.toNat, rest, number_eq_ok_iff.2 ⟨rfl, UInt64.toNat_lt _⟩
    rw [UInt64.ofNat_toNat]
    rfl
  | string s =>
    apply bind_eq_ok_iff.2
    use Bytes.ofText s, rest, counted_write h rest
    apply text_eq_ok_iff.2
    use s, rfl, rfl

/-- What is read off as a value is what is written for it, if its length can be written
before it where that is needed. -/
theorem write_of_value {i : FieldIndex} {t : FieldType} {v : FieldValue} {bs rest : Bytes}
    (h : value i t bs = .ok (v, rest)) :
  v.type = t ∧ v.kept = v ∧ ∃ body, bs = body ++ rest ∧
    ((i.isPrefixed = true → body.length ≤ 255) → v.write i = .ok body)
  := by
  cases t with
  | bool =>
    obtain ⟨b, mid, hb, hv⟩ := bind_eq_ok_iff.1 h
    cases octet_eq_ok_iff.1 hb
    obtain ⟨x, rfl, rfl, rfl⟩ := boolean_eq_ok_iff.1 hv
    use rfl, rfl, [if x then 1 else 0], rfl
    intro
    rfl
  | byte =>
    obtain ⟨b, mid, hb, hv⟩ := bind_eq_ok_iff.1 h
    cases octet_eq_ok_iff.1 hb
    obtain ⟨rfl, rfl⟩ := pure_eq_ok_iff.1 hv
    use rfl, rfl, [b], rfl
    intro
    rfl
  | byteBuffer =>
    obtain ⟨front, mid, hfront, hv⟩ := bind_eq_ok_iff.1 h
    obtain ⟨rfl, rfl⟩ := pure_eq_ok_iff.1 hv
    use rfl, rfl
    apply write_of_counted hfront
  | date =>
    obtain ⟨n, mid, hn, hv⟩ := bind_eq_ok_iff.1 h
    obtain ⟨rfl, hlt⟩ := number_eq_ok_iff.1 hn
    obtain ⟨rfl, rfl⟩ := pure_eq_ok_iff.1 hv
    use rfl, rfl, Bytes.littleEndian 2 n, rfl
    intro
    rw [FieldValue.write, Date.keyDays?_keyDate, UInt16.toNat_ofNat_of_lt' hlt]
  | dateTime =>
    obtain ⟨n, mid, hn, hv⟩ := bind_eq_ok_iff.1 h
    obtain ⟨rfl, hlt⟩ := number_eq_ok_iff.1 hn
    obtain ⟨t, rfl, ht, rfl⟩ := instant_eq_ok_iff.1 hv
    obtain ⟨hmillis, hfloor⟩ := Instant.millis_of_ofMillis? ht
    use rfl, congrArg FieldValue.dateTime hfloor, Bytes.littleEndian 8 n, rfl
    intro
    rw [FieldValue.write, hmillis, Int64.ofInt_toInt]
    apply congrArg (fun n => Except.ok (Bytes.littleEndian 8 n))
    apply UInt64.toNat_ofNat_of_lt' hlt
  | guid =>
    obtain ⟨g, rfl, rfl⟩ := guid_eq_ok_iff.1 h
    use rfl, rfl, g.octets, rfl
    intro
    rfl
  | int16 =>
    obtain ⟨n, mid, hn, hv⟩ := bind_eq_ok_iff.1 h
    obtain ⟨rfl, hlt⟩ := number_eq_ok_iff.1 hn
    obtain ⟨rfl, rfl⟩ := pure_eq_ok_iff.1 hv
    use rfl, rfl, Bytes.littleEndian 2 n, rfl
    intro
    apply congrArg (fun n => Except.ok (Bytes.littleEndian 2 n))
    apply UInt16.toNat_ofNat_of_lt' hlt
  | int32 =>
    obtain ⟨n, mid, hn, hv⟩ := bind_eq_ok_iff.1 h
    obtain ⟨rfl, hlt⟩ := number_eq_ok_iff.1 hn
    obtain ⟨rfl, rfl⟩ := pure_eq_ok_iff.1 hv
    use rfl, rfl, Bytes.littleEndian 4 n, rfl
    intro
    apply congrArg (fun n => Except.ok (Bytes.littleEndian 4 n))
    apply UInt32.toNat_ofNat_of_lt' hlt
  | int64 =>
    obtain ⟨n, mid, hn, hv⟩ := bind_eq_ok_iff.1 h
    obtain ⟨rfl, hlt⟩ := number_eq_ok_iff.1 hn
    obtain ⟨rfl, rfl⟩ := pure_eq_ok_iff.1 hv
    use rfl, rfl, Bytes.littleEndian 8 n, rfl
    intro
    apply congrArg (fun n => Except.ok (Bytes.littleEndian 8 n))
    apply UInt64.toNat_ofNat_of_lt' hlt
  | string =>
    obtain ⟨front, mid, hfront, hv⟩ := bind_eq_ok_iff.1 h
    obtain ⟨s, rfl, rfl, rfl⟩ := text_eq_ok_iff.1 hv
    use rfl, rfl
    apply write_of_counted hfront

/-! ### Lengths -/

theorem length_write_le {i : FieldIndex} {v : FieldValue} {body : Bytes}
    (h : v.write i = .ok body) (hi : i.isPrefixed = true) :
  body.length ≤ 255
  := by
  have hcounted {front : Bytes} (h : Bytes.counted i front = .ok body) : body.length ≤ 255 := by
    obtain ⟨rfl, hlength⟩ := eq_of_counted h
    rw [FieldIndex.contentLimit, if_pos hi] at hlength
    apply Nat.succ_le_succ hlength
  cases v with
  | byteBuffer x => apply hcounted h
  | string s => apply hcounted h
  | date d =>
    obtain ⟨n, -, rfl⟩ := eq_of_write_date h
    rw [Bytes.length_littleEndian]
    decide
  | guid g =>
    cases h
    rw [g.length_octets]
    decide
  | bool | byte =>
    cases h
    rw [List.length_singleton]
    decide
  | dateTime | int16 | int32 | int64 =>
    cases h
    rw [Bytes.length_littleEndian]
    decide

theorem valueLength_write {i : FieldIndex} {v : FieldValue} {body : Bytes}
    (h : v.write i = .ok body) (rest : Bytes) :
  valueLength v.type (body ++ rest) = .ok body.length
  := by
  have hcounted {front : Bytes} (h : Bytes.counted i front = .ok body) {t : FieldType}
      (ht : t.fixedSize? = none) : valueLength t (body ++ rest) = .ok body.length := by
    obtain ⟨rfl, hlength⟩ := eq_of_counted h
    have hlt : front.length < 256 := by
      have := contentLimit_le i
      omega
    rw [List.cons_append]
    unfold valueLength
    rw [ht]
    dsimp only
    rw [UInt8.toNat_ofNat_of_lt' hlt, List.length_cons, Nat.add_comm]
  cases v with
  | byteBuffer x => apply hcounted h rfl
  | string s => apply hcounted h rfl
  | date d =>
    obtain ⟨n, -, rfl⟩ := eq_of_write_date h
    rw [Bytes.length_littleEndian]
    rfl
  | guid g =>
    cases h
    rw [g.length_octets]
    rfl
  | bool | byte =>
    cases h
    rfl
  | dateTime | int16 | int32 | int64 =>
    cases h
    rw [Bytes.length_littleEndian]
    rfl

end Reader

end Entitlement
