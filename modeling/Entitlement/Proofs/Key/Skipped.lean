import Entitlement.Proofs.Key.Pieces

/-!
# Records of later versions

A record under an index that a reader does not know, and may pass over, can stand wherever a
record begins, and in octets that cannot be read as well: what is read, or what is wrong,
stays the same, except that a signature behind it has moved, and that a record now follows a
signature in front of it. An index that a reader does not know and must not pass over is
refused wherever a record begins (`Payload.decode_insert`).

The places where a record begins are those at which reading arrives (`Reading.Arrives`).
What has been read up to such a place is a list of pieces, and these are read alike whatever
stands behind them, for a zero is not the index of any record that can be read
(`Payload.decode_of_boundary`).
-/

namespace Entitlement

open Pieces

/-! ### Where records begin -/

/-- Reading `bs` arrives at `rest`, with the record there still to be read. -/
inductive Reading.Arrives (size : Nat) : Reading → Bytes → Reading → Bytes → Prop
  /-- No record has been read. -/
  | here (r : Reading) (bs : Bytes) : Arrives size r bs r bs
  /-- The first record has been read. -/
  | next {r r₁ r' : Reading} {b : UInt8} {bs mid rest : Bytes}
    (hb : b ≠ FieldIndex.endMark.value)
    (hrecord : r.record (size - (bs.length + 1)) ⟨b⟩ bs = .ok (r₁, mid))
    (h : Arrives size r₁ mid r' rest) : Arrives size r (b :: bs) r' rest

/-- Reading `front ++ rest` arrives at `rest`. -/
def Payload.Boundary (front rest : Bytes) : Prop :=
  ∃ r, Reading.Arrives (front ++ rest).length .start (front ++ rest) r rest

/-- What has been read on arrival is a list of pieces. -/
theorem Reading.pieces_of_arrives {size : Nat} {r r' : Reading} {bs rest : Bytes}
    (h : Reading.Arrives size r bs r' rest) (hsize : bs.length ≤ size) :
  ∃ ps, bs = octets ps ++ rest ∧ Fit r.longBooleans rest.head? ps ∧
    r.afterAll (size - bs.length) ps = .ok r'
  := by
  induction h with
  | here r bs => exact ⟨[], rfl, trivial, rfl⟩
  | @next r r₁ r' b bs mid rest hb hrecord _ ih =>
    obtain ⟨p, hp, hfits, hafter⟩ := piece_of_record hrecord
    change b :: bs = _ at hp
    rw [hp, List.length_append] at hsize
    obtain ⟨ps, rfl, hfit, hall⟩ := ih (by omega)
    use p :: ps
    constructor
    · rw [hp, octets_cons, List.append_assoc]
    · constructor
      · use by rwa [List.head?_append] at hfits
        rwa [← longBooleans_after hafter]
      · apply afterAll_cons_eq_ok_iff.2
        use r₁, hafter
        have hoffset : size - (b :: bs).length + p.octets.length =
            size - (octets ps ++ rest).length := by
          rw [hp, List.length_append]
          omega
        rw [hoffset]
        apply hall

/-- A signature among pieces that have been read begins before they end. -/
theorem Reading.signatureOffset_lt {wide : Bool} {next : Option UInt8} {r r' : Reading}
    {offset : Nat} {ps : List Piece} (hfit : Fit wide next ps)
    (h : r.afterAll offset ps = .ok r') (hr : ∀ n, r.signatureOffset = some n → n < offset) :
  ∀ n, r'.signatureOffset = some n → n < offset + (octets ps).length
  := by
  induction ps generalizing r offset wide with
  | nil =>
    cases h
    apply hr
  | cons p ps ih =>
    obtain ⟨r₁, hp, hps⟩ := afterAll_cons_eq_ok_iff.1 h
    obtain ⟨tail, htail, -, -⟩ := p.octets_eq_cons hfit.1
    have hlength : 0 < p.octets.length := by
      rw [htail]
      apply Nat.succ_pos
    rw [octets_cons, List.length_append, ← Nat.add_assoc]
    apply ih hfit.2 hps
    intro n hn
    cases p with
    | skipped i body =>
      obtain rfl : r.begin = r₁ := Except.ok.inj hp
      have := hr n hn
      omega
    | field i v written padding =>
      obtain ⟨-, hi, rfl⟩ := after_field_eq_ok_iff.1 hp
      dsimp only at hn
      split at hn
      · cases hn
        omega
      · have := hr n hn
        omega

/-! ### Behind a record that is passed over -/

namespace Decoded

/-- What is read where `n` octets that are passed over stand at a place. -/
def withSkipped (d : Decoded) (place n : Nat) : Decoded where
  payload := d.payload
  signatureOffset := d.signatureOffset.map fun o => if place ≤ o then o + n else o
  fieldsAfterSignature := d.fieldsAfterSignature || d.signatureOffset.any (· < place)

end Decoded

namespace Reading

/-- What has been read where `n` octets that are passed over stand at a place. -/
def withSkipped (r : Reading) (place n : Nat) : Reading :=
  ⟨r.toDecoded.withSkipped place n, r.longBooleans⟩

theorem begin_withSkipped (r : Reading) (place n : Nat) :
  (r.withSkipped place n).begin = r.begin.withSkipped place n
  := by
  simp [begin, withSkipped, Decoded.withSkipped, Bool.or_right_comm]

/-- A record that begins does so behind a signature that has been read. -/
theorem field_withSkipped {place offset : Nat} (h : place ≤ offset) (r : Reading) (n : Nat)
    (i : FieldIndex) (v : FieldValue) (long : Bool) :
  (r.begin.withSkipped place n).field (offset + n) i v long =
    (r.begin.field offset i v long).map (·.withSkipped place n)
  := by
  unfold field
  change (r.payload.add i v >>= _) = Except.map _ (r.payload.add i v >>= _)
  cases r.payload.add i v with
  | error e => rfl
  | ok p =>
    change Except.ok _ = Except.ok _
    rw [Except.ok.injEq]
    by_cases hi : i = .signature
    · have hlt : ¬ offset < place := Nat.not_lt.2 h
      cases hr : r.signatureOffset <;>
        simp [withSkipped, Decoded.withSkipped, begin, hi, h, hlt, hr]
    · simp [withSkipped, Decoded.withSkipped, begin, hi]

theorem record_withSkipped {place offset : Nat} (h : place ≤ offset) (r : Reading) (n : Nat)
    (i : FieldIndex) (bs : Bytes) :
  (r.withSkipped place n).record (offset + n) i bs =
    (r.record offset i bs).map fun q => (q.1.withSkipped place n, q.2)
  := by
  have hlift (x : Except KeyError Reading) (rest : Bytes) :
      (liftM (x.map (·.withSkipped place n)) : Reader Reading) rest =
        ((liftM x : Reader Reading) rest).map fun q => (q.1.withSkipped place n, q.2) := by
    cases x <;> rfl
  cases hi : i.type? with
  | none =>
    by_cases hcritical : i.isCritical = true
    · unfold record
      rw [hi, hcritical]
      rfl
    · rw [Bool.not_eq_true] at hcritical
      rw [record_unknown hi hcritical, record_unknown hi hcritical, begin_withSkipped]
      change (Reader.skipped bs >>= _) = Except.map _ (Reader.skipped bs >>= _)
      cases Reader.skipped bs <;> rfl
  | some t =>
    by_cases hprefixed : i.isPrefixed = true
    · rw [record_prefixed hi hprefixed, record_prefixed hi hprefixed, begin_withSkipped]
      change (Reader.framed i t bs >>= _) = Except.map _ (Reader.framed i t bs >>= _)
      cases Reader.framed i t bs with
      | error e => rfl
      | ok q =>
        change (liftM ((r.begin.withSkipped place n).field _ i q.1 _) : Reader Reading) q.2 = _
        rw [field_withSkipped h, hlift]
        rfl
    · rw [Bool.not_eq_true] at hprefixed
      rw [record_bare hi hprefixed, record_bare hi hprefixed, begin_withSkipped]
      change (Reader.bare i r.longBooleans t bs >>= _) =
        Except.map _ (Reader.bare i r.longBooleans t bs >>= _)
      cases Reader.bare i r.longBooleans t bs with
      | error e => rfl
      | ok q =>
        change (liftM ((r.begin.withSkipped place n).field _ i q.1.1 _) : Reader Reading) q.2 = _
        rw [field_withSkipped h, hlift]
        rfl

theorem run_withSkipped {size place : Nat} {r : Reading} {bs : Bytes}
    (h : place + bs.length ≤ size) (n : Nat) :
  (r.withSkipped place n).run (size + n) bs = (r.run size bs).map (·.withSkipped place n)
  := by
  induction hlength : bs.length using Nat.strongRecOn generalizing r bs with
  | _ k ih =>
    cases bs with
    | nil =>
      unfold run
      rfl
    | cons b bs =>
      by_cases hb : (⟨b⟩ : FieldIndex) = .endMark
      · obtain rfl : b = FieldIndex.endMark.value := congrArg FieldIndex.value hb
        unfold run
        rw [if_pos rfl, if_pos rfl]
        cases bs <;> rfl
      · rw [List.length_cons] at h hlength
        change run _ _ ((⟨b⟩ : FieldIndex).value :: bs) =
          (run _ _ ((⟨b⟩ : FieldIndex).value :: bs)).map _
        have hoffset : size + n - (bs.length + 1) = size - (bs.length + 1) + n := by omega
        rw [run_cons hb, run_cons hb, hoffset, record_withSkipped (by omega)]
        cases hrecord : r.record (size - (bs.length + 1)) ⟨b⟩ bs with
        | error e => rfl
        | ok q =>
          have hle : q.2.length ≤ bs.length := r.shrinks_record _ _ bs q.1 q.2 hrecord
          apply ih q.2.length _ _ rfl
          · omega
          · omega

/-- Where all that has been read stands before a place, a record there that is passed over
does no more than follow a signature. -/
theorem begin_of_lt {r : Reading} {place : Nat} (h : ∀ o, r.signatureOffset = some o → o < place)
    (n : Nat) :
  r.begin = r.withSkipped place n
  := by
  cases hr : r.signatureOffset with
  | none => simp [begin, withSkipped, Decoded.withSkipped, hr]
  | some o => simp [begin, withSkipped, Decoded.withSkipped, hr, h o hr, Nat.not_le.2 (h o hr)]

end Reading

/-! ### Where a record begins -/

namespace FieldIndex

theorem forall_of_forall_lt {P : FieldIndex → Prop} (h : ∀ n < 256, P ⟨UInt8.ofNat n⟩)
    (i : FieldIndex) :
  P i
  := by
  have := h i.value.toNat i.value.toNat_lt
  rwa [UInt8.ofNat_toNat] at this

/-- The indices that a reader does not know and passes over. -/
theorem passed_iff :
  ∀ i : FieldIndex, i.type? = none ∧ i.isCritical = false ↔
    129 ≤ i.value ∧ i.value ≤ 253 ∧ i.value ≠ 130
  := by
  apply forall_of_forall_lt
  decide +kernel

/-- The indices, other than zero and the end mark, that a reader does not know and refuses. -/
theorem refused_iff :
  ∀ i : FieldIndex, i.type? = none ∧ i.isCritical = true ∧ i ≠ .endMark ∧ i.value ≠ 0 ↔
    17 ≤ i.value ∧ i.value ≤ 21 ∨ 25 ≤ i.value ∧ i.value ≤ 128
  := by
  apply forall_of_forall_lt
  decide +kernel

end FieldIndex

namespace Payload

/-- What has been read up to a place where a record begins is read there whatever stands
behind, unless that is a zero. -/
theorem decode_of_boundary {front rest : Bytes} (h : Boundary front rest) :
  ∃ r : Reading, (∀ o, r.signatureOffset = some o → o < front.length) ∧
    Payload.decode (front ++ rest) = r.run (front.length + rest.length) rest ∧
    ∀ other : Bytes, other.head? ≠ some 0 →
      Payload.decode (front ++ other) = r.run (front.length + other.length) other
  := by
  obtain ⟨r, harrives⟩ := h
  obtain ⟨ps, hps, hfit, hall⟩ := Reading.pieces_of_arrives harrives (Nat.le_refl _)
  obtain rfl := List.append_cancel_right hps
  rw [Nat.sub_self] at hall
  have hread (other : Bytes) (hother : Fit false other.head? ps) :
      Payload.decode (octets ps ++ other) =
        r.run ((octets ps).length + other.length) other := by
    rw [decode, Reading.run_pieces hother (Nat.le_refl _), Nat.sub_self, hall,
      ← List.length_append]
    rfl
  use r
  constructor
  · have hlt := Reading.signatureOffset_lt hfit hall (by rintro _ ⟨⟩)
    rwa [Nat.zero_add] at hlt
  · use hread rest hfit
    intro other hzero
    apply hread other (hfit.of_ne_zero hzero)

/-- Where a record begins, a record under an unknown index that may be passed over changes
no more than the place of a signature behind it, and that a record follows a signature in
front of it; and an unknown index that must not be passed over is refused. -/
theorem decode_insert {front rest : Bytes} (h : Boundary front rest) :
  (∀ (u : UInt8) (body : Bytes), 129 ≤ u ∧ u ≤ 253 ∧ u ≠ 130 → body.length ≤ 255 →
    Payload.decode (front ++ (u :: UInt8.ofNat body.length :: body) ++ rest) =
      (Payload.decode (front ++ rest)).map
        (·.withSkipped front.length (2 + body.length))) ∧
  ∀ (i : UInt8) (other : Bytes), 17 ≤ i ∧ i ≤ 21 ∨ 25 ≤ i ∧ i ≤ 128 →
    Payload.decode (front ++ i :: other) = .error (.unknownCriticalField ⟨i⟩)
  := by
  obtain ⟨r, hoffset, hrest, hother⟩ := decode_of_boundary h
  constructor
  · intro u body hu hbody
    obtain ⟨htype, hcritical⟩ := (FieldIndex.passed_iff ⟨u⟩).2 hu
    have hfits : (Piece.skipped ⟨u⟩ body).Fits r.longBooleans rest.head? :=
      ⟨htype, hcritical, hbody⟩
    have hzero : ((Piece.skipped ⟨u⟩ body).octets ++ rest).head? ≠ some 0 := by
      have := FieldIndex.value_ne_zero_of_not_isCritical hcritical
      simpa [Piece.octets] using this
    change Payload.decode (front ++ (Piece.skipped ⟨u⟩ body).octets ++ rest) = _
    have hsize : front.length + ((Piece.skipped ⟨u⟩ body).octets ++ rest).length =
        front.length + rest.length + (2 + body.length) := by
      rw [List.length_append, Piece.octets]
      simp only [List.length_cons]
      omega
    rw [List.append_assoc, hother _ hzero, Reading.run_piece hfits, hsize, hrest,
      ← Reading.run_withSkipped (Nat.le_refl _), ← Reading.begin_of_lt hoffset]
    rfl
  · intro i other hi
    obtain ⟨htype, hcritical, hend, hzero⟩ := (FieldIndex.refused_iff ⟨i⟩).2 hi
    rw [hother _ (by simpa using hzero)]
    change r.run _ ((⟨i⟩ : FieldIndex).value :: other) = _
    rw [Reading.run_cons hend]
    unfold Reading.record
    rw [htype, hcritical]
    rfl

/-- Behind a truth value and in front of the signature, with a body that begins with a zero. -/
theorem decode_insert_auditable :
  ∃ d, Payload.decode ([12, 1] ++ [16, 1, 7, 255]) = .ok d ∧ d.signatureOffset = some 2 ∧
    Payload.decode ([12, 1] ++ [200, 2, 0, 0] ++ [16, 1, 7, 255]) =
      .ok ⟨d.payload, some 6, false⟩ ∧
    Payload.decode ([12, 1] ++ 17 :: [0]) = .error (.unknownCriticalField ⟨17⟩)
  := by
  have hboundary : Boundary [12, 1] [16, 1, 7, 255] :=
    ⟨_, .next (by decide) rfl (.here _ _)⟩
  obtain ⟨hpassed, hrefused⟩ := decode_insert hboundary
  have hinsert := hpassed 200 [0, 0] (by decide) (by decide)
  have hrefuse := hrefused 17 [0] (by decide)
  have hread : ((Payload.decode ([12, 1] ++ [16, 1, 7, 255])).toOption.map fun d =>
      (d.signatureOffset, d.fieldsAfterSignature)) = some (some 2, false) := by decide +kernel
  cases hd : Payload.decode ([12, 1] ++ [16, 1, 7, 255]) with
  | error e =>
    rw [hd] at hread
    cases hread
  | ok d =>
    rw [hd] at hread hinsert
    obtain ⟨hoffset, hafter⟩ := Prod.mk.inj (Option.some.inj hread)
    use d, rfl, hoffset
    constructor
    · apply hinsert.trans
      simp [Except.map, Decoded.withSkipped, hoffset, hafter]
    · apply hrefuse

end Payload

end Entitlement
