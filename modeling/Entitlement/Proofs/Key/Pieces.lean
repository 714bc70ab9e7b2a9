import Entitlement.Proofs.Key.Record

/-!
# Lists of pieces

A payload that can be read is the octets of a list of pieces with the end mark behind them,
and what it holds is what reading the pieces one after the other makes of nothing
(`Payload.decode_eq_ok_iff`). So what can be said of payloads is said of lists of pieces:
which values they give (`Reading.get?_afterAll`), when they can be read one after the other
(`Reading.exists_afterAll`), and where the signature stands among them
(`Reading.afterAll_of_signed`).
-/

namespace Entitlement

namespace Piece

/-- A truth value in the long form. -/
def isLong : Piece → Bool
  | field _ _ _ padding => !padding.isEmpty
  | skipped .. => false

/-- The piece is the signature. -/
def isSignature : Piece → Bool
  | field i .. => i = .signature
  | skipped .. => false

/-- The field that a piece gives. -/
def field? : Piece → Option (FieldIndex × FieldValue)
  | field i v .. => some (i, v)
  | skipped .. => none

end Piece

namespace Pieces

/-- The octets of pieces one after the other. -/
def octets (ps : List Piece) : Bytes :=
  ps.flatMap Piece.octets

/-- The fields that pieces give. -/
def fields (ps : List Piece) : List (FieldIndex × FieldValue) :=
  ps.filterMap Piece.field?

/-- The pieces can be read as such one after the other, with an octet behind them. -/
def Fit (wide : Bool) (next : Option UInt8) : List Piece → Prop
  | [] => True
  | p :: ps => p.Fits wide ((octets ps).head?.or next) ∧ Fit (wide || p.isLong) next ps

theorem octets_cons (p : Piece) (ps : List Piece) :
  octets (p :: ps) = p.octets ++ octets ps
  := List.flatMap_cons

theorem octets_append (ps qs : List Piece) :
  octets (ps ++ qs) = octets ps ++ octets qs
  := List.flatMap_append

end Pieces

open Pieces

namespace Reading

/-- What reading pieces one after the other makes of what has been read; the first is at the
given offset. -/
def afterAll (r : Reading) (offset : Nat) : List Piece → Except KeyError Reading
  | [] => .ok r
  | p :: ps => r.after offset p >>= fun r' => r'.afterAll (offset + p.octets.length) ps

theorem afterAll_cons_eq_ok_iff {r r' : Reading} {offset : Nat} {p : Piece} {ps : List Piece} :
  r.afterAll offset (p :: ps) = .ok r' ↔
    ∃ r₁, r.after offset p = .ok r₁ ∧ r₁.afterAll (offset + p.octets.length) ps = .ok r'
  := by
  rw [afterAll, bind_ok_iff]

theorem afterAll_append_eq_ok_iff {r r' : Reading} {offset : Nat} {ps qs : List Piece} :
  r.afterAll offset (ps ++ qs) = .ok r' ↔
    ∃ r₁, r.afterAll offset ps = .ok r₁ ∧
      r₁.afterAll (offset + (octets ps).length) qs = .ok r'
  := by
  induction ps generalizing r offset with
  | nil =>
    constructor
    · intro h
      use r, rfl
      apply h
    · rintro ⟨r₁, h, h'⟩
      cases h
      apply h'
  | cons p ps ih =>
    rw [List.cons_append, afterAll_cons_eq_ok_iff, octets_cons, List.length_append,
      ← Nat.add_assoc]
    constructor
    · rintro ⟨r₁, h₁, h⟩
      obtain ⟨r₂, h₂, h'⟩ := ih.1 h
      use r₂, afterAll_cons_eq_ok_iff.2 ⟨r₁, h₁, h₂⟩
    · rintro ⟨r₂, h, h'⟩
      obtain ⟨r₁, h₁, h₂⟩ := afterAll_cons_eq_ok_iff.1 h
      use r₁, h₁, ih.2 ⟨r₂, h₂, h'⟩

/-! ### One piece -/

theorem field_eq_ok_iff {r r' : Reading} {offset : Nat} {i : FieldIndex} {v : FieldValue}
    {wide : Bool} :
  r.field offset i v wide = .ok r' ↔
    r.payload.get? i = none ∧ ∃ hi : i.type? = some v.type,
      r' = ⟨⟨r.payload.insert i v hi, if i = .signature then some offset else r.signatureOffset,
        r.fieldsAfterSignature⟩, wide⟩
  := by
  unfold field Payload.add Payload.set
  constructor
  · intro h
    split at h
    · cases h
    · rename_i hnone
      split at h
      · rename_i hi
        cases h
        use by simpa [Payload.contains] using hnone, hi
      · cases h
  · rintro ⟨hnone, hi, rfl⟩
    rw [if_neg (by simp [Payload.contains, hnone]), dif_pos hi]
    rfl

/-- What reading a field does: its index must be new. -/
theorem after_field_eq_ok_iff {r r' : Reading} {offset : Nat} {i : FieldIndex} {v : FieldValue}
    {written padding : Bytes} :
  r.after offset (.field i v written padding) = .ok r' ↔
    r.payload.get? i = none ∧ ∃ hi : i.type? = some v.type,
      r' = ⟨⟨r.payload.insert i v hi, if i = .signature then some offset else r.signatureOffset,
        r.fieldsAfterSignature || r.signatureOffset.isSome⟩, r.longBooleans || !padding.isEmpty⟩
  := field_eq_ok_iff

theorem longBooleans_after {r r' : Reading} {offset : Nat} {p : Piece}
    (h : r.after offset p = .ok r') :
  r'.longBooleans = (r.longBooleans || p.isLong)
  := by
  cases p with
  | skipped i body =>
    cases h
    rw [Piece.isLong, Bool.or_false]
    rfl
  | field i v written padding =>
    obtain ⟨-, -, rfl⟩ := after_field_eq_ok_iff.1 h
    rfl

end Reading

/-! ### What can be read -/

namespace Reading

theorem run_pieces {size : Nat} {r : Reading} {ps : List Piece} {rest : Bytes}
    (h : Fit r.longBooleans rest.head? ps) (hsize : (octets ps ++ rest).length ≤ size) :
  r.run size (octets ps ++ rest) =
    r.afterAll (size - (octets ps ++ rest).length) ps >>= fun r' => r'.run size rest
  := by
  induction ps generalizing r with
  | nil => rfl
  | cons p ps ih =>
    obtain ⟨hp, hps⟩ := h
    rw [octets_cons, List.append_assoc] at hsize ⊢
    rw [run_piece (by rwa [List.head?_append]), afterAll]
    cases hafter : r.after (size - (p.octets ++ (octets ps ++ rest)).length) p with
    | error e => rfl
    | ok r₁ =>
      rw [← longBooleans_after hafter] at hps
      have hoffset : size - (p.octets ++ (octets ps ++ rest)).length + p.octets.length =
          size - (octets ps ++ rest).length := by
        rw [List.length_append] at hsize ⊢
        omega
      rw [List.length_append] at hsize
      change r₁.run size (octets ps ++ rest) = _
      rw [ih hps (Nat.le_of_add_left_le hsize)]
      change _ = r₁.afterAll _ ps >>= _
      rw [hoffset]

theorem pieces_of_run {size : Nat} {r : Reading} {bs : Bytes} {d : Decoded}
    (h : r.run size bs = .ok d) :
  ∃ ps r', bs = octets ps ++ [FieldIndex.endMark.value] ∧
    Fit r.longBooleans (some FieldIndex.endMark.value) ps ∧
    (bs.length ≤ size → r.afterAll (size - bs.length) ps = .ok r') ∧ r'.toDecoded = d
  := by
  induction h using run_induction with
  | done r _ hd => use [], r, rfl, trivial, fun _ => rfl, hd
  | step r p rest r' _ _ hfits hafter ih =>
    obtain ⟨ps, r'', rfl, hfit, hall, hd⟩ := ih
    use p :: ps, r''
    constructor
    · rw [octets_cons, List.append_assoc]
    · constructor
      · use by rwa [List.head?_append] at hfits
        rwa [← longBooleans_after hafter]
      · constructor
        · intro hsize
          apply afterAll_cons_eq_ok_iff.2
          use r', hafter
          have hoffset : size - (p.octets ++ (octets ps ++ [FieldIndex.endMark.value])).length +
              p.octets.length = size - (octets ps ++ [FieldIndex.endMark.value]).length := by
            rw [List.length_append] at hsize ⊢
            omega
          rw [hoffset]
          apply hall
          rw [List.length_append] at hsize
          apply Nat.le_of_add_left_le hsize
        · apply hd

end Reading

/-- What can be read is a list of pieces with the end mark behind them. -/
theorem Payload.decode_eq_ok_iff {bs : Bytes} {d : Decoded} :
  Payload.decode bs = .ok d ↔
    ∃ ps r, bs = octets ps ++ [FieldIndex.endMark.value] ∧
      Fit false (some FieldIndex.endMark.value) ps ∧
      Reading.start.afterAll 0 ps = .ok r ∧ r.toDecoded = d
  := by
  unfold decode
  constructor
  · intro h
    obtain ⟨ps, r, hbs, hfit, hall, hd⟩ := Reading.pieces_of_run h
    use ps, r, hbs, hfit
    rw [Nat.sub_self] at hall
    use hall (Nat.le_refl _), hd
  · rintro ⟨ps, r, rfl, hfit, hall, rfl⟩
    rw [Reading.run_pieces hfit (Nat.le_refl _), Nat.sub_self, hall]
    apply Reading.run_end

theorem Payload.decode_octets {ps : List Piece} {r : Reading}
    (hfit : Fit false (some FieldIndex.endMark.value) ps)
    (hr : Reading.start.afterAll 0 ps = .ok r) :
  Payload.decode (octets ps ++ [FieldIndex.endMark.value]) = .ok r.toDecoded
  := Payload.decode_eq_ok_iff.2 ⟨ps, r, rfl, hfit, hr, rfl⟩

/-! ### What pieces fit -/

theorem Padded.of_ne_zero {wide : Bool} {next next' : Option UInt8} {v : FieldValue}
    {padding : Bytes} (h : Padded wide next v padding) (hnext : next' ≠ some 0) :
  Padded wide next' v padding
  := by
  cases h with
  | plain hv => apply Padded.plain hv
  | short hwide => apply Padded.short hwide hnext
  | long hlength hwide => apply Padded.long hlength hwide

/-- The octet behind a piece matters only in that it is zero. -/
theorem Piece.Fits.of_ne_zero {wide : Bool} {next next' : Option UInt8} {p : Piece}
    (h : p.Fits wide next) (hnext : next' ≠ some 0) :
  p.Fits wide next'
  := by
  cases p with
  | skipped i body => apply h
  | field i v written padding =>
    obtain ⟨hrecord, hkept, hpadded⟩ := h
    use hrecord, hkept, hpadded.of_ne_zero hnext

namespace Pieces

/-- The octet behind pieces matters only in that it is zero. -/
theorem Fit.of_ne_zero {wide : Bool} {next next' : Option UInt8} {ps : List Piece}
    (h : Fit wide next ps) (hnext : next' ≠ some 0) :
  Fit wide next' ps
  := by
  induction ps generalizing wide with
  | nil => trivial
  | cons p ps ih =>
    obtain ⟨hp, hps⟩ := h
    constructor
    · cases hhead : (octets ps).head? with
      | none => apply hp.of_ne_zero hnext
      | some b =>
        rw [hhead] at hp
        apply hp
    · apply ih hps

theorem fit_append {wide : Bool} {next : Option UInt8} {ps qs : List Piece} :
  Fit wide next (ps ++ qs) ↔
    Fit wide ((octets qs).head?.or next) ps ∧ Fit (wide || ps.any Piece.isLong) next qs
  := by
  induction ps generalizing wide with
  | nil => simp [Fit]
  | cons p ps ih =>
    rw [List.cons_append, Fit, Fit, ih, octets_append, List.head?_append, Option.or_assoc,
      List.any_cons, Bool.or_assoc, and_assoc]

theorem head?_octets_ne_zero {wide : Bool} {next : Option UInt8} {ps : List Piece}
    (h : Fit wide next ps) (hnext : next ≠ some 0) :
  (octets ps).head?.or next ≠ some 0
  := by
  cases ps with
  | nil => apply hnext
  | cons p ps =>
    obtain ⟨tail, htail, -, hzero⟩ := p.octets_eq_cons h.1
    rw [octets_cons, htail]
    simpa using hzero

theorem fields_cons (p : Piece) (ps : List Piece) :
  fields (p :: ps) = p.field?.toList ++ fields ps
  := by
  rw [fields, List.filterMap_cons]
  cases p.field? <;> rfl

theorem fields_append (ps qs : List Piece) :
  fields (ps ++ qs) = fields ps ++ fields qs
  := List.filterMap_append

end Pieces

/-! ### The fields of pieces -/

namespace Reading

theorem get?_after {r r' : Reading} {offset : Nat} {p : Piece} (h : r.after offset p = .ok r')
    (i : FieldIndex) :
  r'.payload.get? i = (r.payload.get? i).or (Sorted.find? i p.field?.toList)
  := by
  cases p with
  | skipped j body =>
    cases h
    apply Option.or_none.symm
  | field j v written padding =>
    obtain ⟨hnone, hj, rfl⟩ := after_field_eq_ok_iff.1 h
    change (r.payload.insert j v hj).get? i = (r.payload.get? i).or (if i = j then some v else none)
    rw [Payload.get?_insert]
    split
    · rename_i hij
      rw [hij, hnone]
      rfl
    · apply Option.or_none.symm

/-- The values that have been read once pieces have been. -/
theorem get?_afterAll {r r' : Reading} {offset : Nat} {ps : List Piece}
    (h : r.afterAll offset ps = .ok r') (i : FieldIndex) :
  r'.payload.get? i = (r.payload.get? i).or (Sorted.find? i (fields ps))
  := by
  induction ps generalizing r offset with
  | nil =>
    cases h
    apply Option.or_none.symm
  | cons p ps ih =>
    obtain ⟨r₁, hp, hps⟩ := afterAll_cons_eq_ok_iff.1 h
    rw [ih hps, get?_after hp, Option.or_assoc, fields_cons, Sorted.find?_append]

/-- Pieces whose fields are new can be read one after the other. -/
theorem exists_afterAll {ps : List Piece} (htyped : ∀ f ∈ fields ps, f.1.type? = some f.2.type)
    (hnodup : ((fields ps).map (·.1)).Nodup) {r : Reading}
    (hnew : ∀ f ∈ fields ps, r.payload.get? f.1 = none) (offset : Nat) :
  ∃ r', r.afterAll offset ps = .ok r'
  := by
  induction ps generalizing r offset with
  | nil => exact ⟨r, rfl⟩
  | cons p ps ih =>
    rw [fields_cons] at htyped hnodup hnew
    rw [List.map_append] at hnodup
    obtain ⟨-, hnodup', hdisjoint⟩ := List.nodup_append.1 hnodup
    obtain ⟨r₁, hp⟩ : ∃ r₁, r.after offset p = .ok r₁ := by
      cases p with
      | skipped i body => exact ⟨r.begin, rfl⟩
      | field i v written padding =>
        have hmem : (i, v) ∈ (Piece.field i v written padding).field?.toList ++ fields ps :=
          List.mem_cons_self
        exact ⟨_, after_field_eq_ok_iff.2 ⟨hnew _ hmem, htyped _ hmem, rfl⟩⟩
    have hnew₁ : ∀ f ∈ fields ps, r₁.payload.get? f.1 = none := by
      intro f hf
      rw [get?_after hp, hnew f (List.mem_append_right _ hf), Option.none_or]
      apply Sorted.find?_eq_none_of_forall_ne
      intro g hg hfg
      apply hdisjoint g.1 (List.mem_map_of_mem hg) f.1 (List.mem_map_of_mem hf) hfg.symm
    obtain ⟨r', hps⟩ := ih (fun f hf => htyped f (List.mem_append_right _ hf)) hnodup' hnew₁
      (offset + p.octets.length)
    use r', afterAll_cons_eq_ok_iff.2 ⟨r₁, hp, hps⟩

/-! ### The signature among pieces -/

theorem after_of_not_isSignature {r r' : Reading} {offset : Nat} {p : Piece}
    (h : r.after offset p = .ok r') (hp : p.isSignature = false) :
  r'.signatureOffset = r.signatureOffset ∧
    r'.fieldsAfterSignature = (r.fieldsAfterSignature || r.signatureOffset.isSome)
  := by
  cases p with
  | skipped i body =>
    cases h
    exact ⟨rfl, rfl⟩
  | field i v written padding =>
    obtain ⟨-, -, rfl⟩ := after_field_eq_ok_iff.1 h
    constructor
    · apply if_neg (of_decide_eq_false hp)
    · rfl

/-- Pieces without the signature leave no trace of one. -/
theorem afterAll_of_unsigned {r r' : Reading} {offset : Nat} {ps : List Piece}
    (h : r.afterAll offset ps = .ok r') (hps : ∀ p ∈ ps, p.isSignature = false)
    (hr : r.signatureOffset = none) :
  r'.signatureOffset = none ∧ r'.fieldsAfterSignature = r.fieldsAfterSignature
  := by
  induction ps generalizing r offset with
  | nil =>
    cases h
    exact ⟨hr, rfl⟩
  | cons p ps ih =>
    obtain ⟨r₁, hp, hrest⟩ := afterAll_cons_eq_ok_iff.1 h
    obtain ⟨hsig, hafter⟩ := after_of_not_isSignature hp (hps p List.mem_cons_self)
    rw [hr] at hsig hafter
    obtain ⟨hsig', hafter'⟩ := ih hrest (fun q hq => hps q (List.mem_cons_of_mem p hq)) hsig
    use hsig'
    rw [hafter', hafter]
    apply Bool.or_false

/-- Behind the signature its place is kept, and every piece is one that follows it. -/
theorem afterAll_of_signed {r r' : Reading} {offset n : Nat} {ps : List Piece}
    (h : r.afterAll offset ps = .ok r') (hr : r.signatureOffset = some n)
    (hsome : r.payload.get? .signature ≠ none) :
  r'.signatureOffset = some n ∧
    r'.fieldsAfterSignature = (r.fieldsAfterSignature || !ps.isEmpty)
  := by
  induction ps generalizing r offset with
  | nil =>
    cases h
    exact ⟨hr, (Bool.or_false _).symm⟩
  | cons p ps ih =>
    obtain ⟨r₁, hp, hrest⟩ := afterAll_cons_eq_ok_iff.1 h
    have hother : p.isSignature = false := by
      cases p with
      | skipped i body => rfl
      | field i v written padding =>
        obtain ⟨hnone, -, -⟩ := after_field_eq_ok_iff.1 hp
        apply decide_eq_false
        rintro rfl
        apply hsome hnone
    obtain ⟨hsig, hafter⟩ := after_of_not_isSignature hp hother
    have hsome₁ : r₁.payload.get? .signature ≠ none := by
      rw [get?_after hp]
      simpa using fun h => absurd h hsome
    obtain ⟨hsig', hafter'⟩ := ih hrest (hsig.trans hr) hsome₁
    use hsig'
    rw [hafter', hafter, hr]
    simp

end Reading

end Entitlement
