import Entitlement.Proofs.Key.RoundTrip

/-!
# Records as they are written

Many octet strings are read as the same payload: its records may stand in any order, truth
values may be in the long form, and fields that are passed over may stand between them. What
is written for a payload that has been read is one of them, and none is shorter. It is the
octet string that was read exactly if that was canonical: every field in it is known, every
truth value is in the short form, and the records stand in the order in which they are
written (`Payload.encode_of_decode`).

For this to say something of octet strings, an octet string must be made of pieces in one way
only (`Pieces.eq_of_layout`). The pieces are told apart by the reader itself, which takes the
same piece off the same front.
-/

namespace Entitlement

open Pieces

/-! ### The order of records -/

namespace FieldIndex

/-- The records are written in the order of their indices, with the signature behind all
others. -/
def Before (i j : FieldIndex) : Prop :=
  i ≠ .signature ∧ (j = .signature ∨ i < j)

theorem not_before_of_before {i j : FieldIndex} (h : i.Before j) :
  ¬ j.Before i
  := by
  rintro ⟨hj, hi | hlt⟩
  · apply h.1 hi
  · rcases h.2 with h | h
    · apply hj h
    · apply lt_irrefl i
      exact Trans.trans h hlt

end FieldIndex

theorem writeRecords_append (fs gs : List (FieldIndex × FieldValue)) :
  writeRecords (fs ++ gs) = do
    let front ← writeRecords fs
    let back ← writeRecords gs
    return front ++ back
  := by
  induction fs with
  | nil => cases h : writeRecords gs <;> simp [writeRecords, h] <;> rfl
  | cons f fs ih =>
    rw [List.cons_append, writeRecords, writeRecords, ih]
    cases f.1.record f.2 with
    | error e => rfl
    | ok first =>
      cases writeRecords fs with
      | error e => rfl
      | ok rest =>
        cases writeRecords gs with
        | error e => rfl
        | ok back =>
          change Except.ok (first ++ (rest ++ back)) = Except.ok (first ++ rest ++ back)
          rw [List.append_assoc]

namespace Payload

/-- The fields in the order in which they are written. -/
def arranged (p : Payload) : List (FieldIndex × FieldValue) :=
  (p.remove .signature).fields ++ p.fields.filter fun f => f.1 = .signature

theorem perm_arranged (p : Payload) :
  p.arranged.Perm p.fields
  := p.perm_remove .signature

theorem ne_of_mem_remove {p : Payload} {i : FieldIndex} {f : FieldIndex × FieldValue}
    (h : f ∈ (p.remove i).fields) :
  f.1 ≠ i
  := (of_decide_eq_true (List.mem_filter.1 h).2).symm

theorem pairwise_arranged (p : Payload) :
  p.arranged.Pairwise fun f g => f.1.Before g.1
  := by
  apply List.pairwise_append.2
  constructor
  · apply (p.remove .signature).ascending.imp_of_mem
    intro f g hf _ hlt
    use ne_of_mem_remove hf
    right
    apply hlt
  · constructor
    · -- There is one signature at most.
      rw [p.ascending.filter_eq FieldIndex.lt_irrefl]
      cases Sorted.find? .signature p.fields with
      | none => apply List.Pairwise.nil
      | some v => apply List.pairwise_singleton
    · intro f hf g hg
      use ne_of_mem_remove hf
      left
      apply of_decide_eq_true (List.mem_filter.1 hg).2

theorem encode_eq (p : Payload) :
  p.encode = (writeRecords p.arranged).map (· ++ [FieldIndex.endMark.value])
  := by
  rw [arranged, writeRecords_append, encode, signable_eq]
  cases writeRecords (p.remove .signature).fields with
  | error e => rfl
  | ok m => cases writeRecords (p.fields.filter fun f => f.1 = .signature) <;> rfl

theorem encode_eq_ok_iff {p : Payload} {bs : Bytes} :
  p.encode = .ok bs ↔
    ∃ written, writeRecords p.arranged = .ok written ∧ bs = written ++ [FieldIndex.endMark.value]
  := by
  rw [encode_eq]
  cases writeRecords p.arranged <;> simp [Except.map, eq_comm]

end Payload

theorem writeRecords_cons_eq_ok_iff {f : FieldIndex × FieldValue}
    {fs : List (FieldIndex × FieldValue)} {bs : Bytes} :
  writeRecords (f :: fs) = .ok bs ↔
    ∃ first rest, f.1.record f.2 = .ok first ∧ writeRecords fs = .ok rest ∧ bs = first ++ rest
  := by
  constructor
  · intro h
    obtain ⟨first, hfirst, h₁⟩ := bind_ok_iff.1 h
    obtain ⟨rest, hrest, h₂⟩ := bind_ok_iff.1 h₁
    cases h₂
    use first, rest, hfirst, hrest
  · rintro ⟨first, rest, hfirst, hrest, rfl⟩
    rw [writeRecords, hfirst, hrest]
    rfl

/-- Fields that can be written can be written in any other order, as the same octets in
another order. -/
theorem writeRecords_of_perm {fs gs : List (FieldIndex × FieldValue)} (h : fs.Perm gs) {bs : Bytes}
    (hbs : writeRecords fs = .ok bs) :
  ∃ cs, writeRecords gs = .ok cs ∧ bs.Perm cs
  := by
  induction h generalizing bs with
  | nil => use bs, hbs
  | cons f _ ih =>
    obtain ⟨first, rest, hfirst, hrest, rfl⟩ := writeRecords_cons_eq_ok_iff.1 hbs
    obtain ⟨cs, hcs, hperm⟩ := ih hrest
    use first ++ cs, writeRecords_cons_eq_ok_iff.2 ⟨first, cs, hfirst, hcs, rfl⟩
    apply hperm.append_left
  | swap f g fs =>
    obtain ⟨first, mid, hfirst, hmid, rfl⟩ := writeRecords_cons_eq_ok_iff.1 hbs
    obtain ⟨second, rest, hsecond, hrest, rfl⟩ := writeRecords_cons_eq_ok_iff.1 hmid
    use second ++ (first ++ rest), writeRecords_cons_eq_ok_iff.2 ⟨second, first ++ rest, hsecond,
      writeRecords_cons_eq_ok_iff.2 ⟨first, rest, hfirst, hrest, rfl⟩, rfl⟩
    rw [← List.append_assoc, ← List.append_assoc]
    apply List.perm_append_comm.append_right
  | trans _ _ ih ih' =>
    obtain ⟨cs, hcs, hperm⟩ := ih hbs
    obtain ⟨ds, hds, hperm'⟩ := ih' hcs
    use ds, hds, hperm.trans hperm'

/-! ### Octets are made of pieces in one way -/

namespace Piece

/-- A field that is passed over. -/
def isSkipped : Piece → Bool
  | field .. => false
  | skipped .. => true

/-- What reading a piece that fits makes of nothing: its field is all there is. -/
theorem exists_after_empty {wide : Bool} {next : Option UInt8} {p : Piece}
    (hp : p.Fits wide next) {r : Reading} (hr : r.payload = Payload.empty) :
  ∃ r', r.after 0 p = .ok r' ∧
    ∀ i, r'.payload.get? i = Sorted.find? i p.field?.toList
  := by
  have hnone (i : FieldIndex) : r.payload.get? i = none := by
    rw [hr]
    rfl
  obtain ⟨r', hafter⟩ : ∃ r', r.after 0 p = .ok r' := by
    cases p with
    | skipped i body => exact ⟨r.begin, rfl⟩
    | field i v written padding =>
      obtain ⟨hi, -⟩ := FieldIndex.record_eq_ok_iff.1 hp.1
      exact ⟨_, Reading.after_field_eq_ok_iff.2 ⟨hnone i, hi, rfl⟩⟩
  use r', hafter
  intro i
  rw [Reading.get?_after hafter, hnone, Option.none_or]

/-- Pieces that fit are the same if their octets and their fields are. -/
theorem eq_of_octets {wide : Bool} {next : Option UInt8} {p q : Piece} (hp : p.Fits wide next)
    (hq : q.Fits wide next) (h : p.octets = q.octets) (hfield : p.field? = q.field?) :
  p = q
  := by
  cases p with
  | skipped i body =>
    cases q with
    | skipped j body' =>
      obtain ⟨hvalue, htail⟩ := List.cons.inj h
      obtain rfl : i = j := congrArg FieldIndex.mk hvalue
      obtain rfl : body = body' := (List.cons.inj htail).2
      rfl
    | field => cases hfield
  | field i v written padding =>
    cases q with
    | skipped => cases hfield
    | field j v' written' padding' =>
      cases hfield
      obtain rfl : written = written' := Except.ok.inj (hp.1.symm.trans hq.1)
      obtain rfl : padding = padding' := List.append_cancel_left h
      rfl

theorem field?_eq (p : Piece) :
  p.field? = (Sorted.find? p.index p.field?.toList).map fun v => (p.index, v)
  := by
  cases p with
  | skipped i body => rfl
  | field i v written padding => simp [field?, index, Sorted.find?]

/-- The piece at the front of an octet string can be told. -/
theorem octets_append_inj {wide : Bool} {p q : Piece} {rest rest' : Bytes}
    (hp : p.Fits wide rest.head?) (hq : q.Fits wide rest'.head?)
    (h : p.octets ++ rest = q.octets ++ rest') :
  p = q ∧ rest = rest'
  := by
  let r : Reading := ⟨⟨Payload.empty, none, false⟩, wide⟩
  obtain ⟨r₁, hr₁, hget₁⟩ := exists_after_empty hp (r := r) rfl
  obtain ⟨r₂, hr₂, hget₂⟩ := exists_after_empty hq (r := r) rfl
  -- What the reader makes of both is the same, for it is given the same octets.
  obtain ⟨tail, htail, hread⟩ : ∃ tail, p.octets = p.index.value :: tail ∧
      r.record 0 p.index (tail ++ rest) = (r.after 0 p).map fun r => (r, rest) :=
    Reading.record_piece hp
  obtain ⟨tail', htail', hread'⟩ : ∃ tail, q.octets = q.index.value :: tail ∧
      r.record 0 q.index (tail ++ rest') = (r.after 0 q).map fun r => (r, rest') :=
    Reading.record_piece hq
  have hcons := h
  rw [htail, htail', List.cons_append, List.cons_append, List.cons.injEq] at hcons
  have hindex : p.index = q.index := congrArg FieldIndex.mk hcons.1
  rw [hindex, hcons.2, hread', hr₁, hr₂] at hread
  cases hread
  have hfield : p.field? = q.field? := by
    rw [p.field?_eq, q.field?_eq, ← hget₁, ← hget₂, hindex]
  have hoctets : p.octets = q.octets := List.append_cancel_right h
  use eq_of_octets hp hq hoctets hfield

end Piece

namespace Pieces

/-- The octets are those of the pieces, which can be read one after the other, with the end
mark behind them. -/
def Layout (bs : Bytes) (ps : List Piece) : Prop :=
  bs = octets ps ++ [FieldIndex.endMark.value] ∧ Fit false (some FieldIndex.endMark.value) ps

theorem octets_ne_endMark {wide : Bool} {p : Piece} {ps : List Piece} {next : Option UInt8}
    (h : Fit wide next (p :: ps)) (bs : Bytes) :
  octets (p :: ps) ++ bs ≠ [FieldIndex.endMark.value]
  := by
  obtain ⟨tail, htail, hend, -⟩ := p.octets_eq_cons h.1
  rw [octets_cons, htail]
  intro heq
  apply hend
  exact congrArg FieldIndex.mk (List.cons.inj heq).1

theorem eq_of_octets_append {wide : Bool} {ps qs : List Piece}
    (hps : Fit wide (some FieldIndex.endMark.value) ps)
    (hqs : Fit wide (some FieldIndex.endMark.value) qs)
    (h : octets ps ++ [FieldIndex.endMark.value] = octets qs ++ [FieldIndex.endMark.value]) :
  ps = qs
  := by
  induction ps generalizing wide qs with
  | nil =>
    cases qs with
    | nil => rfl
    | cons q qs => exact absurd h.symm (octets_ne_endMark hqs _)
  | cons p ps ih =>
    cases qs with
    | nil => exact absurd h (octets_ne_endMark hps _)
    | cons q qs =>
      rw [octets_cons, octets_cons, List.append_assoc, List.append_assoc] at h
      obtain ⟨rfl, hrest⟩ := Piece.octets_append_inj (by rw [List.head?_append]; apply hps.1)
        (by rw [List.head?_append]; apply hqs.1) h
      rw [ih hps.2 hqs.2 hrest]

/-- Octets are made of pieces in one way only. -/
theorem eq_of_layout {bs : Bytes} {ps qs : List Piece} (hps : Layout bs ps)
    (hqs : Layout bs qs) :
  ps = qs
  := eq_of_octets_append hps.2 hqs.2 (hps.1.symm.trans hqs.1)

/-! ### Canonical pieces -/

/-- The pieces are those that are written: fields that are known, with truth values in the
short form, in the order in which records are written. -/
structure Canonical (ps : List Piece) : Prop where
  known : ∀ p ∈ ps, p.isSkipped = false
  short : ∀ p ∈ ps, p.isLong = false
  ordered : ps.Pairwise fun p q => p.index.Before q.index

/-- The records of the known fields, with truth values in the short form, are found in the
octets when the rest of them is left out. -/
theorem exists_writeRecords {wide : Bool} {next : Option UInt8} {ps : List Piece}
    (h : Fit wide next ps) :
  ∃ written, writeRecords (fields ps) = .ok written ∧ written.Sublist (octets ps) ∧
    (written.length = (octets ps).length ↔
      ∀ p ∈ ps, p.isSkipped = false ∧ p.isLong = false)
  := by
  induction ps generalizing wide with
  | nil =>
    use [], rfl, List.Sublist.slnil
    simp [octets]
  | cons p ps ih =>
    obtain ⟨rest, hrest, hsublist, hlength⟩ := ih h.2
    have hle := hsublist.length_le
    rw [octets_cons, fields_cons, List.forall_mem_cons, ← hlength, List.length_append]
    cases p with
    | skipped i body =>
      use rest, hrest, hsublist.trans (List.sublist_append_right _ _)
      simp only [Piece.octets, Piece.isSkipped, List.length_cons, Bool.true_eq_false, false_and,
        iff_false]
      omega
    | field i v first padding =>
      use first ++ rest, writeRecords_cons_eq_ok_iff.2 ⟨first, rest, h.1.1, hrest, rfl⟩
      constructor
      · apply (List.sublist_append_left first padding).append hsublist
      · simp only [Piece.octets, Piece.isSkipped, Piece.isLong, List.length_append,
          Bool.not_eq_false', List.isEmpty_iff_length_eq_zero, true_and]
        omega

theorem pairwise_fields {ps : List Piece} (h : ∀ p ∈ ps, p.isSkipped = false) :
  (fields ps).Pairwise (fun f g => f.1.Before g.1) ↔
    ps.Pairwise fun p q => p.index.Before q.index
  := by
  rw [fields, List.pairwise_filterMap]
  constructor
  · intro hfields
    apply hfields.imp_of_mem
    intro p q hp hq hpq
    cases p with
    | skipped => cases h _ hp
    | field =>
      cases q with
      | skipped => cases h _ hq
      | field => apply hpq _ rfl _ rfl
  · intro hps
    apply hps.imp
    intro p q hpq f hf g hg
    cases p with
    | skipped => cases hf
    | field =>
      cases q with
      | skipped => cases hg
      | field =>
        cases hf
        cases hg
        apply hpq

end Pieces

/-! ### Payloads that have been read -/

namespace Reading

/-- The fields that have been read once pieces have been. -/
theorem perm_fields_afterAll {r r' : Reading} {offset : Nat} {ps : List Piece}
    (h : r.afterAll offset ps = .ok r') :
  (r.payload.fields ++ fields ps).Perm r'.payload.fields
  := by
  induction ps generalizing r offset with
  | nil =>
    cases h
    rw [fields, List.filterMap_nil, List.append_nil]
  | cons p ps ih =>
    obtain ⟨r₁, hp, hps⟩ := afterAll_cons_eq_ok_iff.1 h
    have hperm : (r.payload.fields ++ p.field?.toList).Perm r₁.payload.fields := by
      cases p with
      | skipped i body =>
        cases hp
        rw [Piece.field?, Option.toList_none, List.append_nil]
        rfl
      | field i v written padding =>
        obtain ⟨hnone, hi, rfl⟩ := after_field_eq_ok_iff.1 hp
        have hperm := Payload.perm_fields (p := r.payload.insert i v hi) (i := i) (v := v) (by
          rw [Payload.get?_insert, if_pos rfl])
        rw [Payload.remove_insert v hi hnone] at hperm
        exact hperm
    rw [fields_cons, ← List.append_assoc]
    apply (hperm.append_right _).trans (ih hps)

end Reading

namespace Payload

/-- The fields of a payload that has been read are those of its pieces. -/
theorem fields_of_decode {bs : Bytes} {d : Decoded} (h : Payload.decode bs = .ok d) :
  ∃ ps, Layout bs ps ∧ (Pieces.fields ps).Perm d.payload.fields
  := by
  obtain ⟨ps, r, hbs, hfit, hr, rfl⟩ := decode_eq_ok_iff.1 h
  use ps, ⟨hbs, hfit⟩
  apply Reading.perm_fields_afterAll hr

theorem kept_eq_self {p : Payload} (h : ∀ f ∈ p.fields, f.2.kept = f.2) :
  p.kept = p
  := by
  apply ext_get?
  intro i
  rw [get?_kept]
  cases hv : p.get? i with
  | none => rfl
  | some v =>
    rw [Option.map_some, h (i, v) (Sorted.mem_of_find? hv)]

theorem kept_of_fit {wide : Bool} {next : Option UInt8} {ps : List Piece}
    (h : Fit wide next ps) :
  ∀ f ∈ Pieces.fields ps, f.2.kept = f.2
  := by
  induction ps generalizing wide with
  | nil => rintro _ ⟨⟩
  | cons p ps ih =>
    intro f hf
    rw [fields_cons] at hf
    rcases List.mem_append.1 hf with hf | hf
    · cases p with
      | skipped => cases hf
      | field i v written padding =>
        cases List.mem_singleton.1 hf
        apply h.1.2.1
    · apply ih h.2 f hf

/-- What is written for the fields of pieces is no longer than the pieces, and it is the same
exactly if these are canonical. -/
theorem canonical_iff {p : Payload} {ps : List Piece} {written : Bytes}
    (hfit : Fit false (some FieldIndex.endMark.value) ps)
    (hperm : (Pieces.fields ps).Perm p.fields) (hwritten : writeRecords p.arranged = .ok written) :
  written.length ≤ (octets ps).length ∧ (written = octets ps ↔ Canonical ps)
  := by
  obtain ⟨short, hshort, hsublist, hlength⟩ := exists_writeRecords hfit
  have harranged : (Pieces.fields ps).Perm p.arranged := hperm.trans p.perm_arranged.symm
  have hsame : short.length = written.length := by
    obtain ⟨cs, hcs, hoctets⟩ := writeRecords_of_perm harranged hshort
    cases hcs.symm.trans hwritten
    apply hoctets.length_eq
  constructor
  · rw [← hsame]
    apply hsublist.length_le
  · constructor
    · intro heq
      have hall := hlength.1 (hsame.trans (congrArg List.length heq))
      have hknown : ∀ q ∈ ps, q.isSkipped = false := fun q hq => (hall q hq).1
      use hknown, fun q hq => (hall q hq).2
      -- The octets written are made of records in order, and of no other pieces.
      rw [← writePadded_false] at hwritten
      obtain ⟨qs, hqs, hfields, -, -, hfit'⟩ := pieces_of_writePadded hwritten
      obtain rfl : qs = ps :=
        eq_of_octets_append (hfit' false _ (by rintro ⟨⟩) (by decide)) hfit (by rw [hqs, heq])
      rw [← pairwise_fields hknown, hfields]
      apply List.pairwise_map.2
      apply p.pairwise_arranged
    · intro hcanonical
      have hfields : Pieces.fields ps = p.arranged := by
        apply harranged.eq_of_pairwise _ ((pairwise_fields hcanonical.known).2 hcanonical.ordered)
          p.pairwise_arranged
        intro f g _ _ hfg hgf
        exact absurd hgf (FieldIndex.not_before_of_before hfg)
      rw [hfields] at hshort
      cases hshort.symm.trans hwritten
      apply hsublist.eq_of_length
      apply hlength.2 fun q hq => ⟨hcanonical.known q hq, hcanonical.short q hq⟩

/-- A payload that has been read can be written again. What is written is no longer than what
was read, it is read as the same payload with the signature behind all other records, and it
is what was read exactly if the records in there, which can be told in one way only, are
canonical. -/
theorem encode_of_decode {bs : Bytes} {d : Decoded} (h : Payload.decode bs = .ok d) :
  ∃ bs' m, d.payload.encode = .ok bs' ∧ d.payload.signable = .ok m ∧ bs'.length ≤ bs.length ∧
    Payload.decode bs' =
      .ok ⟨d.payload, if d.payload.contains .signature then some m.length else none, false⟩ ∧
    ∃ ps, Layout bs ps ∧ (∀ qs, Layout bs qs → qs = ps) ∧ (bs' = bs ↔ Canonical ps)
  := by
  obtain ⟨ps, hlayout, hperm⟩ := fields_of_decode h
  obtain ⟨short, hshort, -⟩ := exists_writeRecords hlayout.2
  obtain ⟨written, hwritten, -⟩ :=
    writeRecords_of_perm (hperm.trans d.payload.perm_arranged.symm) hshort
  have hencode : d.payload.encode = .ok (written ++ [FieldIndex.endMark.value]) :=
    encode_eq_ok_iff.2 ⟨written, hwritten, rfl⟩
  have hkept : d.payload.kept = d.payload :=
    kept_eq_self fun f hf => kept_of_fit hlayout.2 f (hperm.symm.subset hf)
  obtain ⟨m, rest, hm, -, hdecode⟩ := decode_encode hencode
  rw [hkept] at hdecode
  obtain ⟨hle, hiff⟩ := canonical_iff hlayout.2 hperm hwritten
  use written ++ [FieldIndex.endMark.value], m, hencode, hm
  constructor
  · rw [hlayout.1, List.length_append, List.length_append]
    apply Nat.add_le_add_right hle
  · use hdecode, ps, hlayout, fun qs hqs => eq_of_layout hqs hlayout
    rw [← hiff, hlayout.1, List.append_cancel_right_eq]

/-- The signature stands in front, then a truth value in the long form, then a field that is
passed over. -/
theorem encode_of_decode_auditable :
  ∃ d bs', Payload.decode [16, 1, 7, 12, 1, 0, 0, 0, 200, 1, 9, 255] = .ok d ∧
    d.signatureOffset = some 0 ∧ d.payload.encode = .ok bs' ∧ bs'.length ≤ 12 ∧
    Payload.decode bs' = .ok ⟨d.payload, some 2, false⟩ ∧
    bs' ≠ [16, 1, 7, 12, 1, 0, 0, 0, 200, 1, 9, 255]
  := by
  have hread : (Payload.decode [16, 1, 7, 12, 1, 0, 0, 0, 200, 1, 9, 255]).toOption.map
      (fun d => (d.signatureOffset, d.payload.contains .signature, d.payload.signable.toOption)) =
        some (some 0, true, some [12, 1]) := by decide +kernel
  cases hd : Payload.decode [16, 1, 7, 12, 1, 0, 0, 0, 200, 1, 9, 255] with
  | error e =>
    rw [hd] at hread
    cases hread
  | ok d =>
    rw [hd] at hread
    simp only [Except.toOption, Option.map_some, Option.some.injEq, Prod.mk.injEq] at hread
    obtain ⟨hoffset, hsignature, hsignable⟩ := hread
    obtain ⟨bs', m, hencode, hm, hle, hdecode, -⟩ := encode_of_decode hd
    rw [hm] at hsignable
    cases hsignable
    rw [if_pos hsignature] at hdecode
    use d, bs', rfl, hoffset, hencode, hle, hdecode
    rintro rfl
    rw [Except.ok.inj (hd.symm.trans hdecode)] at hoffset
    cases hoffset

end Payload

end Entitlement
