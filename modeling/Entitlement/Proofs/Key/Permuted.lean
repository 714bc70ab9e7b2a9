import Entitlement.Proofs.Key.Signed

/-!
# Records in any order

A reader does not ask for the order in which the records of a payload were written. Whatever
order they stand in, and whether all truth values are in the short form or all of them in the
long one, what is read is what a key keeps of the payload, together with the place of the
signature and whether a record follows it (`Payload.decode_permuted`). What is to be seen is
that no octet behind a truth value is a zero, for each record begins with its index and so
does the end mark (`pieces_of_writePadded`).
-/

namespace Entitlement

open Pieces

/-! ### Writing in either form -/

/-- The octets behind the record of a value, with truth values in the long form or not. -/
def FieldValue.padding (long : Bool) : FieldValue → Bytes
  | bool _ => if long then [0, 0, 0] else []
  | _ => []

/-- The records of fields one after the other, with truth values in the long form or not. -/
def writePadded (long : Bool) : List (FieldIndex × FieldValue) → Except KeyError Bytes
  | [] => .ok []
  | f :: fs => do
    let first ← f.1.record f.2
    let rest ← writePadded long fs
    return first ++ f.2.padding long ++ rest

theorem writePadded_false (fs : List (FieldIndex × FieldValue)) :
  writePadded false fs = writeRecords fs
  := by
  induction fs with
  | nil => rfl
  | cons f fs ih =>
    have hpadding : f.2.padding false = [] := by
      cases f.2 <;> rfl
    rw [writePadded, writeRecords, ih, hpadding]
    simp only [List.append_nil]

theorem writePadded_cons_eq_ok_iff {long : Bool} {f : FieldIndex × FieldValue}
    {fs : List (FieldIndex × FieldValue)} {bs : Bytes} :
  writePadded long (f :: fs) = .ok bs ↔
    ∃ first rest, f.1.record f.2 = .ok first ∧ writePadded long fs = .ok rest ∧
      bs = first ++ f.2.padding long ++ rest
  := by
  constructor
  · intro h
    obtain ⟨first, hfirst, h₁⟩ := bind_ok_iff.1 h
    obtain ⟨rest, hrest, h₂⟩ := bind_ok_iff.1 h₁
    cases h₂
    use first, rest, hfirst, hrest
  · rintro ⟨first, rest, hfirst, hrest, rfl⟩
    rw [writePadded, hfirst, hrest]
    rfl

theorem writePadded_append_eq_ok_iff {long : Bool} {fs gs : List (FieldIndex × FieldValue)}
    {bs : Bytes} :
  writePadded long (fs ++ gs) = .ok bs ↔
    ∃ front back, writePadded long fs = .ok front ∧ writePadded long gs = .ok back ∧
      bs = front ++ back
  := by
  induction fs generalizing bs with
  | nil =>
    constructor
    · intro h
      use [], bs, rfl, h
      rfl
    · rintro ⟨_, back, ⟨⟩, h, rfl⟩
      apply h
  | cons f fs ih =>
    rw [List.cons_append, writePadded_cons_eq_ok_iff]
    constructor
    · rintro ⟨first, rest, hfirst, hrest, rfl⟩
      obtain ⟨front, back, hfront, hback, rfl⟩ := ih.1 hrest
      use first ++ f.2.padding long ++ front, back
      use writePadded_cons_eq_ok_iff.2 ⟨first, front, hfirst, hfront, rfl⟩, hback
      rw [List.append_assoc _ front back]
    · rintro ⟨front, back, hfront, hback, rfl⟩
      obtain ⟨first, rest, hfirst, hrest, rfl⟩ := writePadded_cons_eq_ok_iff.1 hfront
      use first, rest ++ back, hfirst, ih.2 ⟨rest, back, hrest, hback, rfl⟩
      rw [List.append_assoc _ rest back]

/-- Fields can be written in any order if each of them can be written. -/
theorem exists_writePadded {fs : List (FieldIndex × FieldValue)}
    (h : ∀ f ∈ fs, ∃ bs, f.1.record f.2 = .ok bs) (long : Bool) :
  ∃ bs, writePadded long fs = .ok bs
  := by
  induction fs with
  | nil => exact ⟨[], rfl⟩
  | cons f fs ih =>
    obtain ⟨first, hfirst⟩ := h f List.mem_cons_self
    obtain ⟨rest, hrest⟩ := ih fun g hg => h g (List.mem_cons_of_mem f hg)
    exact ⟨_, writePadded_cons_eq_ok_iff.2 ⟨first, rest, hfirst, hrest, rfl⟩⟩

theorem exists_record_of_writeRecords {fs : List (FieldIndex × FieldValue)} {bs : Bytes}
    (h : writeRecords fs = .ok bs) :
  ∀ f ∈ fs, ∃ bs, f.1.record f.2 = .ok bs
  := by
  induction fs generalizing bs with
  | nil => rintro _ ⟨⟩
  | cons f fs ih =>
    obtain ⟨first, hfirst, h₁⟩ := bind_ok_iff.1 h
    obtain ⟨rest, hrest, -⟩ := bind_ok_iff.1 h₁
    intro g hg
    rcases List.mem_cons.1 hg with rfl | hg
    · use first
    · apply ih hrest g hg

/-! ### The pieces of what is written -/

theorem FieldValue.padded_padding {wide long : Bool} {next : Option UInt8}
    (hwide : wide = true → long = true) (hnext : next ≠ some 0) (v : FieldValue) :
  Padded wide next v.kept (v.padding long)
  := by
  cases v with
  | bool x =>
    cases long with
    | true =>
      apply Padded.long rfl
      right
      rfl
    | false =>
      apply Padded.short _ hnext
      apply Bool.eq_false_iff.2
      intro h
      cases hwide h
  | _ => apply Padded.plain (by rintro ⟨⟩)

theorem fits_of_record {wide long : Bool} {next : Option UInt8} {i : FieldIndex}
    {v : FieldValue} {written : Bytes} (h : i.record v = .ok written)
    (hwide : wide = true → long = true) (hnext : next ≠ some 0) :
  (Piece.field i v.kept written (v.padding long)).Fits wide next
  := by
  use by rwa [FieldIndex.record_kept], v.kept_kept
  apply v.padded_padding hwide hnext

theorem FieldValue.long_of_padding {long : Bool} (v : FieldValue) :
  (!(v.padding long).isEmpty) = true → long = true
  := by
  cases long with
  | true => exact fun _ => rfl
  | false => cases v <;> exact id

/-- What is written for fields is a list of pieces that give what a key keeps of the fields.
It can be read in front of everything that does not begin with a zero. -/
theorem pieces_of_writePadded {long : Bool} {fs : List (FieldIndex × FieldValue)} {bs : Bytes}
    (h : writePadded long fs = .ok bs) :
  ∃ ps, octets ps = bs ∧ fields ps = fs.map (fun f => (f.1, f.2.kept)) ∧
    ps.isEmpty = fs.isEmpty ∧ (ps.any Piece.isLong = true → long = true) ∧
    ∀ wide next, (wide = true → long = true) → next ≠ some 0 → Fit wide next ps
  := by
  induction fs generalizing bs with
  | nil =>
    cases h
    exact ⟨[], rfl, rfl, rfl, by rintro ⟨⟩, fun _ _ _ _ => trivial⟩
  | cons f fs ih =>
    obtain ⟨first, rest, hfirst, hrest, rfl⟩ := writePadded_cons_eq_ok_iff.1 h
    obtain ⟨ps, rfl, hfields, -, hlong, hfit⟩ := ih hrest
    use .field f.1 f.2.kept first (f.2.padding long) :: ps
    constructor
    · rw [octets_cons, Piece.octets]
    · constructor
      · rw [fields_cons, hfields]
        rfl
      · use rfl
        constructor
        · rw [List.any_cons, Bool.or_eq_true]
          rintro (h | h)
          · apply f.2.long_of_padding h
          · apply hlong h
        · intro wide next hwide hnext
          have hps : Fit (wide || !(f.2.padding long).isEmpty) next ps := by
            apply hfit _ next _ hnext
            rw [Bool.or_eq_true]
            rintro (h | h)
            · apply hwide h
            · apply f.2.long_of_padding h
          apply And.intro _ hps
          apply fits_of_record hfirst hwide (head?_octets_ne_zero hps hnext)

theorem not_isSignature_of_fields {ps : List Piece} (h : ∀ f ∈ fields ps, f.1 ≠ .signature) :
  ∀ p ∈ ps, p.isSignature = false
  := by
  intro p hp
  cases p with
  | skipped i body => rfl
  | field i v written padding =>
    apply decide_eq_false
    apply h (i, v)
    exact List.mem_filterMap.2 ⟨_, hp, rfl⟩

/-! ### Reading in any order -/

namespace Payload

theorem nodup_fields (p : Payload) :
  (p.fields.map (·.1)).Nodup
  := by
  apply List.pairwise_map.2
  apply p.ascending.imp
  rintro f g hfg heq
  rw [heq] at hfg
  apply FieldIndex.lt_irrefl _ hfg

/-- Pieces that give what a key keeps of a payload, in any order, are read one after the other
as just that. -/
theorem afterAll_of_perm {p : Payload} {ps : List Piece}
    (h : (Pieces.fields ps).Perm p.kept.fields) :
  ∃ r, Reading.start.afterAll 0 ps = .ok r ∧ r.payload = p.kept
  := by
  have htyped : ∀ f ∈ Pieces.fields ps, f.1.type? = some f.2.type := by
    intro f hf
    apply p.kept.typed f (h.subset hf)
  have hnodup : ((Pieces.fields ps).map (·.1)).Nodup :=
    (h.map _).nodup_iff.2 p.kept.nodup_fields
  obtain ⟨r, hr⟩ := Reading.exists_afterAll htyped hnodup (r := .start) (fun f _ => rfl) 0
  use r, hr
  apply ext_get?
  intro i
  rw [Reading.get?_afterAll hr]
  apply Sorted.find?_perm hnodup h

/-- The records of a payload without a signature are read in any order. -/
theorem decode_of_unsigned {p : Payload} {fs : List (FieldIndex × FieldValue)} {long : Bool}
    {bs : Bytes} (hp : p.get? .signature = none) (hfs : fs.Perm p.fields)
    (h : writePadded long fs = .ok bs) :
  Payload.decode (bs ++ [FieldIndex.endMark.value]) = .ok ⟨p.kept, none, false⟩
  := by
  obtain ⟨ps, rfl, hfields, -, -, hfit⟩ := pieces_of_writePadded h
  have hperm : (Pieces.fields ps).Perm p.kept.fields := by
    rw [hfields]
    apply hfs.map
  have hunsigned : ∀ q ∈ ps, q.isSignature = false := by
    apply not_isSignature_of_fields
    rintro ⟨_, v⟩ hf rfl
    have hv : p.kept.get? .signature = some v :=
      p.kept.ascending.find?_of_mem FieldIndex.lt_irrefl (hperm.subset hf)
    rw [get?_kept, hp] at hv
    cases hv
  obtain ⟨r, hr, hpayload⟩ := afterAll_of_perm hperm
  obtain ⟨hoffset, hafter⟩ := Reading.afterAll_of_unsigned hr hunsigned rfl
  have hafter : r.fieldsAfterSignature = false := hafter
  rw [decode_octets (hfit false _ (by rintro ⟨⟩) (by decide)) hr, ← hpayload, ← hoffset, ← hafter]

/-- The records of a payload with a signature are read in any order, and the place of the
signature is told. -/
theorem decode_of_signed {p : Payload} {front back : List (FieldIndex × FieldValue)}
    {v : FieldValue} {long : Bool} {m bs : Bytes}
    (hfs : (front ++ (.signature, v) :: back).Perm p.fields)
    (hfront : writePadded long front = .ok m)
    (hback : writePadded long ((.signature, v) :: back) = .ok bs) :
  Payload.decode (m ++ bs ++ [FieldIndex.endMark.value]) =
    .ok ⟨p.kept, some m.length, !back.isEmpty⟩
  := by
  obtain ⟨first, rest, hfirst, hrest, rfl⟩ := writePadded_cons_eq_ok_iff.1 hback
  obtain ⟨ps, rfl, hps, -, hlong, hfitFront⟩ := pieces_of_writePadded hfront
  obtain ⟨qs, rfl, hqs, hempty, -, hfitBack⟩ := pieces_of_writePadded hrest
  have hoctets : octets ps ++ (first ++ v.padding long ++ octets qs) =
      octets (ps ++ .field .signature v.kept first (v.padding long) :: qs) := by
    rw [octets_append, octets_cons, Piece.octets]
  have hperm : (Pieces.fields (ps ++ .field .signature v.kept first (v.padding long) :: qs)).Perm
      p.kept.fields := by
    rw [fields_append, fields_cons, hps, hqs]
    have hkept := hfs.map fun f => (f.1, f.2.kept)
    rwa [List.map_append] at hkept
  have hunsigned : ∀ q ∈ ps, q.isSignature = false := by
    apply not_isSignature_of_fields
    rw [hps]
    intro f hf hsig
    obtain ⟨g, hg, rfl⟩ := List.mem_map.1 hf
    have hnodup := (hfs.map fun f => f.1).nodup_iff.2 p.nodup_fields
    rw [List.map_append] at hnodup
    apply (List.nodup_append.1 hnodup).2.2 g.1 (List.mem_map_of_mem hg) .signature
      List.mem_cons_self hsig
  obtain ⟨r, hr, hpayload⟩ := afterAll_of_perm hperm
  obtain ⟨-, hoffset, hafter, -⟩ := Reading.afterAll_signature hr hunsigned
  have hsignature : Fit (ps.any Piece.isLong) (some FieldIndex.endMark.value)
      (.field .signature v.kept first (v.padding long) :: qs) := by
    have hback : Fit _ (some FieldIndex.endMark.value) qs :=
      hfitBack (ps.any Piece.isLong || !(v.padding long).isEmpty) _ (by
        rw [Bool.or_eq_true]
        rintro (h | h)
        · apply hlong h
        · apply v.long_of_padding h) (by decide)
    apply And.intro _ hback
    apply fits_of_record hfirst hlong (head?_octets_ne_zero hback (by decide))
  have hfit : Fit false (some FieldIndex.endMark.value)
      (ps ++ .field .signature v.kept first (v.padding long) :: qs) := by
    apply fit_append.2
    rw [Bool.false_or]
    use hfitFront _ _ (by rintro ⟨⟩) (head?_octets_ne_zero hsignature (by decide))
  rw [hoctets, decode_octets hfit hr, ← hpayload, ← hempty, ← hafter, ← hoffset]

/-- A payload that can be written has a record for each of its fields. -/
theorem exists_record_of_encode {p : Payload} {bs : Bytes} (h : p.encode = .ok bs) :
  ∀ f ∈ p.fields, ∃ bs, f.1.record f.2 = .ok bs
  := by
  obtain ⟨m, hm, h₁⟩ := bind_ok_iff.1 h
  obtain ⟨last, hlast, -⟩ := bind_ok_iff.1 h₁
  intro f hf
  by_cases hsig : f.1 = .signature
  · apply exists_record_of_writeRecords hlast
    apply List.mem_filter.2 ⟨hf, decide_eq_true hsig⟩
  · apply exists_record_of_writeRecords hm
    apply List.mem_filter.2 ⟨hf, decide_eq_true hsig⟩

/-- The records of a payload are read whatever order they stand in and whichever form all
truth values have: as what a key keeps of the payload, with the place of the signature, and
whether a record follows it. -/
theorem decode_permuted {p : Payload} {bs : Bytes} (h : p.encode = .ok bs)
    {fs : List (FieldIndex × FieldValue)} (hfs : fs.Perm p.fields) (long : Bool) :
  ∃ written, writePadded long fs = .ok written ∧
    (p.contains .signature = false →
      Payload.decode (written ++ [FieldIndex.endMark.value]) = .ok ⟨p.kept, none, false⟩) ∧
    (p.contains .signature = true →
      ∃ front v back m, fs = front ++ (.signature, v) :: back ∧
        writePadded long front = .ok m ∧
        Payload.decode (written ++ [FieldIndex.endMark.value]) =
          .ok ⟨p.kept, some m.length, !back.isEmpty⟩)
  := by
  have hrecords : ∀ f ∈ fs, ∃ bs, f.1.record f.2 = .ok bs := fun f hf =>
    exists_record_of_encode h f (hfs.subset hf)
  obtain ⟨written, hwritten⟩ := exists_writePadded hrecords long
  use written, hwritten
  constructor
  · intro hcontains
    apply decode_of_unsigned _ hfs hwritten
    simpa [contains] using hcontains
  · intro hcontains
    obtain ⟨v, hv⟩ := Option.isSome_iff_exists.1 hcontains
    have hmem : (.signature, v) ∈ fs := hfs.symm.subset (Sorted.mem_of_find? hv)
    obtain ⟨front, back, rfl⟩ := List.append_of_mem hmem
    obtain ⟨m, rest, hm, hrest, rfl⟩ := writePadded_append_eq_ok_iff.1 hwritten
    use front, v, back, m, rfl, hm
    apply decode_of_signed hfs hm hrest

/-- A payload with a text, two truth values and a signature. -/
def auditablePayload : Payload :=
  (((Payload.empty.insert .licensee (.string "Acme") (by decide)).insert .auditable (.bool false)
    (by decide)).insert .allowInheritance (.bool true) (by decide)).insert .signature
    (.byteBuffer [4, 5, 6]) (by decide)

/-- The signature stands between two truth values in the long form, and the text is last. -/
theorem decode_permuted_auditablePayload :
  ∃ written, writePadded true [(.auditable, .bool false), (.signature, .byteBuffer [4, 5, 6]),
      (.allowInheritance, .bool true), (.licensee, .string "Acme")] = .ok written ∧
    Payload.decode (written ++ [FieldIndex.endMark.value]) =
      .ok ⟨auditablePayload.kept, some 5, true⟩
  := by
  have hencode : auditablePayload.encode.toOption.isSome := by decide +kernel
  cases h : auditablePayload.encode with
  | error e =>
    rw [h] at hencode
    cases hencode
  | ok bs =>
    have hperm : List.Perm [(.auditable, .bool false), (.signature, .byteBuffer [4, 5, 6]),
        (.allowInheritance, .bool true), (.licensee, .string "Acme")]
        auditablePayload.fields := by decide +kernel
    obtain ⟨written, hwritten, -, hsigned⟩ := decode_permuted h hperm true
    use written, hwritten
    obtain ⟨front, v, back, m, hfs, hm, hdecode⟩ := hsigned (by decide +kernel)
    rcases front with _ | ⟨f, _ | ⟨g, front⟩⟩
    · cases hfs
    · cases hfs
      cases hm
      apply hdecode
    · rw [List.cons_append, List.cons_append, List.cons.injEq, List.cons.injEq] at hfs
      have hmem : (FieldIndex.signature, v) ∈ front ++ (.signature, v) :: back :=
        List.mem_append_right front List.mem_cons_self
      rw [← hfs.2.2] at hmem
      rcases List.mem_cons.1 hmem with hmem | hmem
      · cases hmem
      · cases List.mem_singleton.1 hmem

end Payload

end Entitlement
