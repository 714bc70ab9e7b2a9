import Mathlib.Data.List.Forall2
import Entitlement.Proofs.Key.Canonical

/-!
# Payloads that can be written

The payloads that can be made by setting and removing fields and by reading octets are all
there are: their fields stand in the order of their indices, each with a value of the type of
its index (`Payload.exists_made_iff`). Such a payload can be written unless a date is none
that keys can name, or a text or octet string is too long (`FieldValue.Fault`). If it cannot,
the error is that of the first field in the order of writing that has a fault
(`Payload.encode_eq_error_iff`). If it can, every length that is written is the length of what
stands behind it (`FieldIndex.Measured`).
-/

namespace Entitlement

/-! ### Faults of a value -/

/-- What is wrong with a value that cannot be written under an index. -/
inductive FieldValue.Fault (i : FieldIndex) : FieldValue → KeyError → Prop where
  /-- The date is before the first or after the last one that keys can name. -/
  | date {d : Date} (h : d < Date.keyEpoch ∨ Date.keyLast < d) :
    Fault i (.date d) (.invalidValue i (.dateOutOfRange d))
  /-- The octet string is longer than its length can tell. -/
  | byteBuffer {bs : Bytes} (h : i.contentLimit < bs.length) :
    Fault i (.byteBuffer bs) (.valueTooLong i bs.length i.contentLimit)
  /-- The text is longer than its length can tell. -/
  | string {s : String} (h : i.contentLimit < (Bytes.ofText s).length) :
    Fault i (.string s) (.valueTooLong i (Bytes.ofText s).length i.contentLimit)

theorem Bytes.counted_eq_error_iff {i : FieldIndex} {bs : Bytes} {e : KeyError} :
  counted i bs = .error e ↔
    i.contentLimit < bs.length ∧ e = .valueTooLong i bs.length i.contentLimit
  := by
  unfold counted
  split
  · rename_i h
    constructor
    · rintro ⟨⟩
    · rintro ⟨hlt, -⟩
      omega
  · rename_i h
    rw [Except.error.injEq, eq_comm]
    constructor
    · intro he
      use Nat.lt_of_not_le h
    · rintro ⟨-, he⟩
      apply he

theorem Date.keyDays?_eq_none_iff {d : Date} :
  d.keyDays? = none ↔ d < keyEpoch ∨ keyLast < d
  := by
  unfold keyDays?
  split
  · rename_i h
    simp only [reduceCtorEq, false_iff, not_or]
    constructor
    · apply Int.not_lt.2 h.1
    · apply Int.not_lt.2 h.2
  · rename_i h
    simp only [true_iff]
    rw [Decidable.not_and_iff_or_not] at h
    apply h.imp Int.not_le.1 Int.not_le.1

namespace FieldValue

theorem write_date_eq_error_iff {i : FieldIndex} {d : Date} {e : KeyError} :
  (date d).write i = .error e ↔
    (d < Date.keyEpoch ∨ Date.keyLast < d) ∧ e = .invalidValue i (.dateOutOfRange d)
  := by
  rw [write, ← Date.keyDays?_eq_none_iff]
  cases d.keyDays? with
  | none => simp [eq_comm]
  | some n => simp

/-- A value cannot be written exactly if it has a fault. -/
theorem write_eq_error_iff {i : FieldIndex} {v : FieldValue} {e : KeyError} :
  v.write i = .error e ↔ v.Fault i e
  := by
  constructor
  · intro h
    cases v with
    | byteBuffer bs =>
      obtain ⟨hlt, rfl⟩ := Bytes.counted_eq_error_iff.1 h
      apply Fault.byteBuffer hlt
    | date d =>
      obtain ⟨hd, rfl⟩ := write_date_eq_error_iff.1 h
      apply Fault.date hd
    | string s =>
      obtain ⟨hlt, rfl⟩ := Bytes.counted_eq_error_iff.1 h
      apply Fault.string hlt
    | _ => cases h
  · intro h
    cases h with
    | date hd => apply write_date_eq_error_iff.2 ⟨hd, rfl⟩
    | byteBuffer hlt => apply Bytes.counted_eq_error_iff.2 ⟨hlt, rfl⟩
    | string hlt => apply Bytes.counted_eq_error_iff.2 ⟨hlt, rfl⟩

theorem forall_not_fault_date_iff {i : FieldIndex} {d : Date} :
  (∀ e, ¬ (date d).Fault i e) ↔ Date.keyEpoch ≤ d ∧ d ≤ Date.keyLast
  := by
  constructor
  · intro h
    constructor
    · apply Int.not_lt.1
      intro hlt
      apply h _ (.date (.inl hlt))
    · apply Int.not_lt.1
      intro hlt
      apply h _ (.date (.inr hlt))
  · rintro ⟨hfirst, hlast⟩ e ⟨hlt | hlt⟩
    · exact Int.not_lt.2 hfirst hlt
    · exact Int.not_lt.2 hlast hlt

theorem forall_not_fault_byteBuffer_iff {i : FieldIndex} {bs : Bytes} :
  (∀ e, ¬ (byteBuffer bs).Fault i e) ↔ bs.length ≤ i.contentLimit
  := by
  constructor
  · intro h
    apply Nat.not_lt.1
    intro hlt
    apply h _ (.byteBuffer hlt)
  · rintro h e ⟨⟩
    omega

theorem forall_not_fault_string_iff {i : FieldIndex} {s : String} :
  (∀ e, ¬ (string s).Fault i e) ↔ (Bytes.ofText s).length ≤ i.contentLimit
  := by
  constructor
  · intro h
    apply Nat.not_lt.1
    intro hlt
    apply h _ (.string hlt)
  · rintro h e ⟨⟩
    omega

end FieldValue

theorem FieldIndex.record_eq_error_iff {i : FieldIndex} {v : FieldValue} {e : KeyError}
    (h : i.type? = some v.type) :
  i.record v = .error e ↔ v.Fault i e
  := by
  rw [record, if_pos h, ← FieldValue.write_eq_error_iff]
  cases v.write i with
  | error e' =>
    change Except.error e' = _ ↔ _
    rfl
  | ok body =>
    constructor
    · rintro ⟨⟩
    · rintro ⟨⟩

theorem FieldIndex.exists_record_iff {i : FieldIndex} {v : FieldValue}
    (h : i.type? = some v.type) :
  (∃ bs, i.record v = .ok bs) ↔ ∀ e, ¬ v.Fault i e
  := by
  simp only [← record_eq_error_iff h]
  cases i.record v <;> simp

/-! ### The first fault -/

theorem writeRecords_cons_eq_error_iff {f : FieldIndex × FieldValue}
    {fs : List (FieldIndex × FieldValue)} {e : KeyError} :
  writeRecords (f :: fs) = .error e ↔
    f.1.record f.2 = .error e ∨
      (∃ first, f.1.record f.2 = .ok first) ∧ writeRecords fs = .error e
  := by
  rw [writeRecords]
  cases f.1.record f.2 with
  | error e' =>
    change Except.error e' = _ ↔ _
    simp
  | ok first =>
    cases writeRecords fs with
    | error e' =>
      change Except.error e' = _ ↔ _
      simp
    | ok rest =>
      change Except.ok _ = _ ↔ _
      simp

/-- Records cannot be written because of the first field that has a fault. -/
theorem writeRecords_eq_error_iff {fs : List (FieldIndex × FieldValue)} {e : KeyError}
    (htyped : ∀ f ∈ fs, f.1.type? = some f.2.type) :
  writeRecords fs = .error e ↔
    ∃ front f back, fs = front ++ f :: back ∧ (∀ g ∈ front, ∀ e', ¬ g.2.Fault g.1 e') ∧
      f.2.Fault f.1 e
  := by
  induction fs with
  | nil =>
    constructor
    · rintro ⟨⟩
    · rintro ⟨front, f, back, h, -⟩
      simp at h
  | cons f fs ih =>
    obtain ⟨hf, hfs⟩ := List.forall_mem_cons.1 htyped
    rw [writeRecords_cons_eq_error_iff, FieldIndex.record_eq_error_iff hf,
      FieldIndex.exists_record_iff hf, ih hfs]
    constructor
    · rintro (hfault | ⟨hgood, front, g, back, rfl, hfront, hg⟩)
      · use [], f, fs, rfl, by rintro _ ⟨⟩
      · use f :: front, g, back, rfl, List.forall_mem_cons.2 ⟨hgood, hfront⟩
    · rintro ⟨front, g, back, h, hfront, hg⟩
      cases front with
      | nil =>
        cases h
        left
        apply hg
      | cons f' front =>
        cases h
        obtain ⟨hgood, hfront⟩ := List.forall_mem_cons.1 hfront
        right
        exact ⟨hgood, front, g, back, rfl, hfront, hg⟩

theorem exists_writeRecords_iff {fs : List (FieldIndex × FieldValue)}
    (htyped : ∀ f ∈ fs, f.1.type? = some f.2.type) :
  (∃ bs, writeRecords fs = .ok bs) ↔ ∀ f ∈ fs, ∀ e, ¬ f.2.Fault f.1 e
  := by
  induction fs with
  | nil => simp [writeRecords]
  | cons f fs ih =>
    obtain ⟨hf, hfs⟩ := List.forall_mem_cons.1 htyped
    rw [List.forall_mem_cons, ← FieldIndex.exists_record_iff hf, ← ih hfs]
    constructor
    · rintro ⟨bs, hbs⟩
      obtain ⟨first, rest, hfirst, hrest, -⟩ := writeRecords_cons_eq_ok_iff.1 hbs
      use ⟨first, hfirst⟩, rest
    · rintro ⟨⟨first, hfirst⟩, rest, hrest⟩
      use first ++ rest, writeRecords_cons_eq_ok_iff.2 ⟨first, rest, hfirst, hrest, rfl⟩

namespace Payload

theorem typed_arranged (p : Payload) :
  ∀ f ∈ p.arranged, f.1.type? = some f.2.type
  := fun f hf => p.typed f (p.perm_arranged.subset hf)

theorem mem_fields_iff {p : Payload} {i : FieldIndex} {v : FieldValue} :
  (i, v) ∈ p.fields ↔ p.get? i = some v
  := ⟨p.ascending.find?_of_mem FieldIndex.lt_irrefl, Sorted.mem_of_find?⟩

theorem mem_arranged_iff {p : Payload} {i : FieldIndex} {v : FieldValue} :
  (i, v) ∈ p.arranged ↔ p.get? i = some v
  := p.perm_arranged.mem_iff.trans mem_fields_iff

/-- A payload cannot be written because of the first field in the order of writing that has a
fault. -/
theorem encode_eq_error_iff {p : Payload} {e : KeyError} :
  p.encode = .error e ↔
    ∃ i v, p.get? i = some v ∧ v.Fault i e ∧
      ∀ j w e', p.get? j = some w → w.Fault j e' → j = i ∨ i.Before j
  := by
  have hwrite : p.encode = .error e ↔ writeRecords p.arranged = .error e := by
    rw [encode_eq]
    cases writeRecords p.arranged <;> simp [Except.map]
  rw [hwrite, writeRecords_eq_error_iff p.typed_arranged]
  constructor
  · rintro ⟨front, ⟨i, v⟩, back, harranged, hfront, hfault⟩
    use i, v
    constructor
    · rw [← mem_arranged_iff, harranged]
      apply List.mem_append_right front List.mem_cons_self
    · use hfault
      intro j w e' hw hfault'
      have horder := p.pairwise_arranged
      rw [← mem_arranged_iff, harranged] at hw
      rw [harranged] at horder
      rcases List.mem_append.1 hw with hw | hw
      · exact absurd hfault' (hfront _ hw e')
      · rcases List.mem_cons.1 hw with hw | hw
        · cases hw
          left
          rfl
        · right
          apply (List.pairwise_cons.1 (List.pairwise_append.1 horder).2.1).1 _ hw
  · rintro ⟨i, v, hv, hfault, hfirst⟩
    obtain ⟨front, back, harranged⟩ := List.append_of_mem (mem_arranged_iff.2 hv)
    use front, (i, v), back, harranged
    constructor
    · rintro ⟨j, w⟩ hw e' hfault'
      have horder := p.pairwise_arranged
      rw [harranged] at horder
      have hbefore : j.Before i := (List.pairwise_append.1 horder).2.2 _ hw _ List.mem_cons_self
      have hget : p.get? j = some w := by
        rw [← mem_arranged_iff, harranged]
        apply List.mem_append_left _ hw
      rcases hfirst j w e' hget hfault' with rfl | hafter
      · apply FieldIndex.not_before_of_before hbefore hbefore
      · apply FieldIndex.not_before_of_before hbefore hafter
    · apply hfault

/-- The dates are among those that keys can name, and the texts and octet strings are not too
long. -/
structure Writable (p : Payload) : Prop where
  date : ∀ i d, p.get? i = some (.date d) → Date.keyEpoch ≤ d ∧ d ≤ Date.keyLast
  byteBuffer : ∀ i bs, p.get? i = some (.byteBuffer bs) → bs.length ≤ i.contentLimit
  string : ∀ i s, p.get? i = some (.string s) → (Bytes.ofText s).length ≤ i.contentLimit

theorem writable_iff {p : Payload} :
  p.Writable ↔ ∀ i v, p.get? i = some v → ∀ e, ¬ v.Fault i e
  := by
  constructor
  · intro h i v hv
    cases v with
    | byteBuffer bs => apply FieldValue.forall_not_fault_byteBuffer_iff.2 (h.byteBuffer i bs hv)
    | date d => apply FieldValue.forall_not_fault_date_iff.2 (h.date i d hv)
    | string s => apply FieldValue.forall_not_fault_string_iff.2 (h.string i s hv)
    | _ => rintro e ⟨⟩
  · intro h
    constructor
    · intro i d hd
      apply FieldValue.forall_not_fault_date_iff.1 (h i _ hd)
    · intro i bs hbs
      apply FieldValue.forall_not_fault_byteBuffer_iff.1 (h i _ hbs)
    · intro i s hs
      apply FieldValue.forall_not_fault_string_iff.1 (h i _ hs)

theorem exists_encode_iff {p : Payload} :
  (∃ bs, p.encode = .ok bs) ↔ p.Writable
  := by
  have hwrite : (∃ bs, p.encode = .ok bs) ↔ ∃ bs, writeRecords p.arranged = .ok bs := by
    rw [encode_eq]
    cases writeRecords p.arranged <;> simp [Except.map]
  rw [hwrite, exists_writeRecords_iff p.typed_arranged, writable_iff]
  constructor
  · intro h i v hv
    apply h (i, v) (mem_arranged_iff.2 hv)
  · rintro h ⟨i, v⟩ hv
    apply h i v (mem_arranged_iff.1 hv)

/-- What is signed does not depend on the signature. -/
theorem signable_congr {p q : Payload} (h : ∀ i, i ≠ .signature → p.get? i = q.get? i) :
  p.signable = q.signable
  := by
  have hrest : p.remove .signature = q.remove .signature := by
    apply ext_get?
    intro i
    rw [get?_remove, get?_remove]
    split
    · rfl
    · rename_i hi
      apply h i hi
  rw [signable_eq, signable_eq, hrest]

theorem writeRecords_singleton (f : FieldIndex × FieldValue) :
  writeRecords [f] = f.1.record f.2
  := by
  cases h : f.1.record f.2 with
  | error e =>
    rw [writeRecords, h]
    rfl
  | ok bs =>
    apply writeRecords_cons_eq_ok_iff.2
    use bs, [], h, rfl
    rw [List.append_nil]

/-- The records that are written are those that are signed, and that of the signature if there
is one. -/
theorem exists_signable_of_encode {p : Payload} {bs : Bytes} (h : p.encode = .ok bs) :
  ∃ m last, p.signable = .ok m ∧
    ((p.get? .signature = none ∧ last = []) ∨
      ∃ v, p.get? .signature = some v ∧ FieldIndex.signature.record v = .ok last) ∧
    bs = m ++ last ++ [FieldIndex.endMark.value] ∧ writeRecords p.arranged = .ok (m ++ last)
  := by
  obtain ⟨written, hwritten, hbs⟩ := encode_eq_ok_iff.1 h
  obtain ⟨m, hm, ⟨hnone, heq⟩ | ⟨v, last, hv, hlast, heq⟩⟩ := encode_eq_ok h
  · obtain rfl : written = m := List.append_cancel_right (hbs.symm.trans heq)
    use written, [], hm, .inl ⟨hnone, rfl⟩
    rw [List.append_nil]
    use hbs
  · obtain rfl : written = m ++ last := List.append_cancel_right (hbs.symm.trans heq)
    rw [writeRecords_singleton] at hlast
    use m, last, hm, .inr ⟨v, hv, hlast⟩, hbs

end Payload

/-! ### Lengths -/

/-- The octets of a value. Where a length stands before a text or an octet string, it is that
of what follows. -/
inductive FieldValue.Measured : FieldValue → Bytes → Prop where
  | fixed {v : FieldValue} {body : Bytes} (h : v.type.fixedSize? = some body.length) :
    Measured v body
  | byteBuffer {bs : Bytes} {n : UInt8} (h : n.toNat = bs.length) :
    Measured (.byteBuffer bs) (n :: bs)
  | string {s : String} {n : UInt8} (h : n.toNat = (Bytes.ofText s).length) :
    Measured (.string s) (n :: Bytes.ofText s)

/-- The octets of a record. Where a length stands before the value, it is that of the value. -/
inductive FieldIndex.Measured (i : FieldIndex) (v : FieldValue) : Bytes → Prop where
  | bare {body : Bytes} (hi : i.isPrefixed = false) (hv : v.Measured body) :
    Measured i v (i.value :: body)
  | framed {body : Bytes} {n : UInt8} (hi : i.isPrefixed = true) (hv : v.Measured body)
    (h : n.toNat = body.length) : Measured i v (i.value :: n :: body)

theorem FieldValue.measured_of_write {i : FieldIndex} {v : FieldValue} {body : Bytes}
    (h : v.write i = .ok body) :
  v.Measured body
  := by
  have hcounted {bs : Bytes} (h : Bytes.counted i bs = .ok body) :
      ∃ n : UInt8, n.toNat = bs.length ∧ body = n :: bs := by
    obtain ⟨rfl, hle⟩ := Reader.eq_of_counted h
    use UInt8.ofNat bs.length
    constructor
    · apply UInt8.toNat_ofNat_of_lt' (Nat.lt_succ_of_le (hle.trans (Reader.contentLimit_le i)))
    · rfl
  cases v with
  | byteBuffer bs =>
    obtain ⟨n, hn, rfl⟩ := hcounted h
    apply Measured.byteBuffer hn
  | string s =>
    obtain ⟨n, hn, rfl⟩ := hcounted h
    apply Measured.string hn
  | date d =>
    obtain ⟨n, -, rfl⟩ := Reader.eq_of_write_date h
    apply Measured.fixed
    rw [Bytes.length_littleEndian]
    rfl
  | guid g =>
    cases h
    apply Measured.fixed
    rw [g.length_octets]
    rfl
  | _ =>
    cases h
    apply Measured.fixed
    rfl

theorem FieldIndex.measured_of_record {i : FieldIndex} {v : FieldValue} {bs : Bytes}
    (h : i.record v = .ok bs) :
  i.Measured v bs
  := by
  obtain ⟨-, body, hbody, rfl⟩ := record_eq_ok_iff.1 h
  have hv := FieldValue.measured_of_write hbody
  cases hi : i.isPrefixed with
  | false => apply Measured.bare hi hv
  | true =>
    apply Measured.framed hi hv
    apply UInt8.toNat_ofNat_of_lt' (Nat.lt_succ_of_le (Reader.length_write_le hbody hi))

theorem exists_measured {fs : List (FieldIndex × FieldValue)} {bs : Bytes}
    (h : writeRecords fs = .ok bs) :
  ∃ records, bs = records.flatten ∧ List.Forall₂ (fun f r => f.1.Measured f.2 r) fs records
  := by
  induction fs generalizing bs with
  | nil =>
    cases h
    use [], rfl, List.Forall₂.nil
  | cons f fs ih =>
    obtain ⟨first, rest, hfirst, hrest, rfl⟩ := writeRecords_cons_eq_ok_iff.1 h
    obtain ⟨records, rfl, hrecords⟩ := ih hrest
    use first :: records, rfl
    rw [List.forall₂_cons]
    use FieldIndex.measured_of_record hfirst

/-! ### Payloads that can be made -/

namespace Payload

/-- The payloads that a program can make. -/
inductive Made : Payload → Prop where
  | empty : Made empty
  | set {p q : Payload} {i : FieldIndex} {v : FieldValue} (hp : Made p) (h : p.set i v = .ok q) :
    Made q
  | remove {p : Payload} (hp : Made p) (i : FieldIndex) : Made (p.remove i)
  | read {bs : Bytes} {d : Decoded} (h : Payload.decode bs = .ok d) : Made d.payload

theorem eq_of_fields {p q : Payload} (h : p.fields = q.fields) :
  p = q
  := by
  cases p
  cases q
  cases h
  rfl

/-- Every payload can be made, by setting its fields from the last one to the first. -/
theorem made (p : Payload) :
  p.Made
  := by
  obtain ⟨fields, hascending, htyped⟩ := p
  induction fields with
  | nil => apply Made.empty
  | cons f fs ih =>
    have hrest : Sorted.Ascending fs := (List.pairwise_cons.1 hascending).2
    obtain ⟨hf, hfs⟩ := List.forall_mem_cons.1 htyped
    have hfields : Sorted.insert f.1 f.2 fs = f :: fs := by
      cases fs with
      | nil => rfl
      | cons g gs =>
        rw [Sorted.insert, if_pos ((List.pairwise_cons.1 hascending).1 g List.mem_cons_self)]
    let p : Payload := ⟨fs, hrest, hfs⟩
    have hset : p.set f.1 f.2 = .ok (p.insert f.1 f.2 hf) := dif_pos hf
    have hp : p.insert f.1 f.2 hf = ⟨f :: fs, hascending, htyped⟩ := eq_of_fields hfields
    rw [hp] at hset
    apply Made.set (ih hrest hfs) hset

/-- The payloads that can be made are those whose fields stand in the order of their indices,
each with a value of the type of its index. -/
theorem exists_made_iff {fields : List (FieldIndex × FieldValue)} :
  (∃ p : Payload, p.Made ∧ p.fields = fields) ↔
    Sorted.Ascending fields ∧ ∀ f ∈ fields, f.1.type? = some f.2.type
  := by
  constructor
  · rintro ⟨p, -, rfl⟩
    use p.ascending, p.typed
  · rintro ⟨hascending, htyped⟩
    use ⟨fields, hascending, htyped⟩, made _

/-! ### All of it -/

/-- The payloads that can be made are those with a value of the right type under each index.
One of them can be written exactly if its dates are among those that keys can name and its
texts and octet strings are not too long; otherwise the error is that of the first faulty
field, where the signature comes behind all others. What is written are the octets that are
signed, which do not depend on the signature, then the signature if there is one, then the end
mark; every length among them is true. -/
theorem encode_exact :
  (∀ fields, (∃ p : Payload, p.Made ∧ p.fields = fields) ↔
    Sorted.Ascending fields ∧ ∀ f ∈ fields, f.1.type? = some f.2.type) ∧
  ∀ p : Payload,
    ((∃ bs, p.encode = .ok bs) ↔ p.Writable) ∧
    (∀ e, p.encode = .error e ↔ ∃ i v, p.get? i = some v ∧ v.Fault i e ∧
      ∀ j w e', p.get? j = some w → w.Fault j e' → j = i ∨ i.Before j) ∧
    (∀ q : Payload, (∀ i, i ≠ .signature → p.get? i = q.get? i) → p.signable = q.signable) ∧
    ∀ bs, p.encode = .ok bs → ∃ m last records, p.signable = .ok m ∧
      ((p.get? .signature = none ∧ last = []) ∨
        ∃ v, p.get? .signature = some v ∧ FieldIndex.signature.record v = .ok last) ∧
      bs = m ++ last ++ [255] ∧ m ++ last = records.flatten ∧
      List.Forall₂ (fun f r => f.1.Measured f.2 r) p.arranged records
  := by
  use fun fields => exists_made_iff
  intro p
  use exists_encode_iff, fun e => encode_eq_error_iff, fun q h => signable_congr h
  intro bs hbs
  obtain ⟨m, last, hm, hlast, rfl, hwritten⟩ := exists_signable_of_encode hbs
  obtain ⟨records, hflatten, hrecords⟩ := exists_measured hwritten
  use m, last, records, hm, hlast, rfl, hflatten

/-- A signature that is as long as can be, a text that is one octet too long, and the day
before the first one that keys can name. -/
def faultyPayload : Payload :=
  ((Payload.empty.insert .signature (.byteBuffer (List.replicate 255 7)) (by decide)).insert
    .description (.string (String.ofList (List.replicate 254 'x' ++ ['y']))) (by decide)).insert
    .validFrom (.date ⟨10956, by decide, by decide⟩) (by decide)

/-- The date is told first, and without it the text; the signature alone can be written. -/
theorem encode_exact_faultyPayload :
  faultyPayload.encode =
    .error (.invalidValue .validFrom (.dateOutOfRange ⟨10956, by decide, by decide⟩)) ∧
  ¬ faultyPayload.Writable ∧
  (faultyPayload.remove .validFrom).encode = .error (.valueTooLong .description 255 254) ∧
  ¬ (faultyPayload.remove .validFrom).Writable ∧
  ((faultyPayload.remove .validFrom).remove .description).Writable ∧
  ∃ (m last : Bytes) (records : List Bytes),
    ((faultyPayload.remove .validFrom).remove .description).encode = .ok (m ++ last ++ [255]) ∧
    m ++ last = records.flatten ∧ records.length = 1
  := by
  obtain ⟨hfirst, -⟩ := encode_exact.2 faultyPayload
  obtain ⟨hsecond, -⟩ := encode_exact.2 (faultyPayload.remove .validFrom)
  obtain ⟨hthird, -, -, hlayout⟩ :=
    encode_exact.2 ((faultyPayload.remove .validFrom).remove .description)
  have hdate : faultyPayload.encode =
      .error (.invalidValue .validFrom (.dateOutOfRange ⟨10956, by decide, by decide⟩)) := by
    decide +kernel
  have htext : (faultyPayload.remove .validFrom).encode =
      .error (.valueTooLong .description 255 254) := by
    decide +kernel
  have hsome : ((faultyPayload.remove .validFrom).remove .description).encode.toOption.isSome := by
    decide +kernel
  obtain ⟨bs, hbs⟩ := Option.isSome_iff_exists.1 hsome
  have hbs := eq_ok_of_toOption hbs
  obtain ⟨m, last, records, -, -, rfl, hflatten, hrecords⟩ := hlayout bs hbs
  refine ⟨hdate, ?_, htext, ?_, hthird.1 ⟨_, hbs⟩, m, last, records, hbs, hflatten, ?_⟩
  · rw [← hfirst, hdate]
    rintro ⟨bs, ⟨⟩⟩
  · rw [← hsecond, htext]
    rintro ⟨bs, ⟨⟩⟩
  · rw [← List.Forall₂.length_eq hrecords]
    decide +kernel

end Payload

end Entitlement
