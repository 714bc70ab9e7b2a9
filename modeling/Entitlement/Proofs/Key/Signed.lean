import Entitlement.Key.Text
import Entitlement.Proofs.Key.Pieces

/-!
# Where the signature stands

A payload that can be read either has no signature, or is made of records, the record of the
signature, further records, and the end mark (`Payload.decode_layout`). When no record
follows the signature, the octets in front of it are those that are signed, and with the end
mark behind them they hold every field but the signature
(`DecodedKey.layout_of_signedBytes?`).
-/

namespace Entitlement

open Pieces

/-! ### The signature among pieces -/

namespace Piece

theorem eq_of_isSignature {p : Piece} (h : p.isSignature = true) :
  ∃ v written padding, p = field .signature v written padding
  := by
  cases p with
  | skipped i body => cases h
  | field i v written padding =>
    obtain rfl : i = .signature := of_decide_eq_true h
    use v, written, padding

end Piece

/-- Pieces are without the signature, or can be split at the first one. -/
theorem Pieces.unsigned_or_split (ps : List Piece) :
  (∀ p ∈ ps, p.isSignature = false) ∨
    ∃ front v written padding back, ps = front ++ .field .signature v written padding :: back ∧
      ∀ p ∈ front, p.isSignature = false
  := by
  cases h : ps.find? Piece.isSignature with
  | none =>
    left
    simpa using h
  | some s =>
    right
    obtain ⟨hs, front, back, hps, hfront⟩ := List.find?_eq_some_iff_append.1 h
    obtain ⟨v, written, padding, rfl⟩ := Piece.eq_of_isSignature hs
    use front, v, written, padding, back, hps
    simpa using hfront

namespace Pieces

theorem octets_eq_nil_iff {wide : Bool} {next : Option UInt8} {ps : List Piece}
    (h : Fit wide next ps) :
  octets ps = [] ↔ ps = []
  := by
  cases ps with
  | nil => simp [octets]
  | cons p ps =>
    obtain ⟨tail, htail, -, -⟩ := p.octets_eq_cons h.1
    simp [octets_cons, htail]

theorem fits_signature {wide : Bool} {next : Option UInt8} {v : FieldValue}
    {written padding : Bytes} (h : (Piece.field .signature v written padding).Fits wide next) :
  ∃ sig : Bytes, v = .byteBuffer sig ∧ sig.length ≤ 255 ∧ padding = [] ∧
    written = [FieldIndex.signature.value, UInt8.ofNat sig.length] ++ sig
  := by
  obtain ⟨hrecord, -, hpadded⟩ := h
  obtain ⟨hi, body, hbody, rfl⟩ := FieldIndex.record_eq_ok_iff.1 hrecord
  have htype : v.type = .byteBuffer := (Option.some.inj hi).symm
  cases v with
  | byteBuffer sig =>
    obtain ⟨rfl, hlength⟩ := Reader.eq_of_counted hbody
    cases hpadded
    use sig, rfl, hlength, rfl
    rfl
  | _ => cases htype

theorem get?_of_unsigned {r : Reading} {offset : Nat} {ps : List Piece}
    (h : Reading.start.afterAll offset ps = .ok r) (hps : ∀ p ∈ ps, p.isSignature = false) :
  r.payload.get? .signature = none
  := by
  rw [Reading.get?_afterAll h]
  apply Sorted.find?_eq_none_of_forall_ne
  rintro f hf hsig
  obtain ⟨p, hp, hfield⟩ := List.mem_filterMap.1 hf
  cases p with
  | skipped i body => cases hfield
  | field i v written padding =>
    cases hfield
    apply of_decide_eq_false (hps _ hp) hsig.symm

end Pieces

/-! ### Payloads -/

namespace Payload

theorem remove_insert {p : Payload} {i : FieldIndex} (v : FieldValue) (hv : i.type? = some v.type)
    (h : p.get? i = none) :
  (p.insert i v hv).remove i = p
  := by
  apply ext_get?
  intro j
  rw [get?_remove, get?_insert]
  split
  · rename_i hj
    rw [hj, h]
  · rfl

end Payload

/-- The signature among pieces gives its value and its place, and what follows it is told. -/
theorem Reading.afterAll_signature {r : Reading} {front back : List Piece} {v : FieldValue}
    {written padding : Bytes}
    (h : Reading.start.afterAll 0 (front ++ .field .signature v written padding :: back) = .ok r)
    (hfront : ∀ p ∈ front, p.isSignature = false) :
  r.payload.get? .signature = some v ∧ r.signatureOffset = some (octets front).length ∧
    r.fieldsAfterSignature = !back.isEmpty ∧
    (back = [] → ∃ r₁, Reading.start.afterAll 0 front = .ok r₁ ∧
      r₁.toDecoded = ⟨r.payload.remove .signature, none, false⟩)
  := by
  obtain ⟨r₁, hr₁, hrest⟩ := afterAll_append_eq_ok_iff.1 h
  obtain ⟨hoffset, hafter⟩ := afterAll_of_unsigned hr₁ hfront rfl
  obtain ⟨r₂, hr₂, hback⟩ := afterAll_cons_eq_ok_iff.1 hrest
  obtain ⟨hnone, hv, rfl⟩ := after_field_eq_ok_iff.1 hr₂
  have hget : (r₁.payload.insert .signature v hv).get? .signature = some v := by
    rw [Payload.get?_insert, if_pos rfl]
  have hsome : (r₁.payload.insert .signature v hv).get? .signature ≠ none := by
    rw [hget]
    rintro ⟨⟩
  rw [if_pos rfl, Nat.zero_add] at hback
  obtain ⟨hoffset', hafter'⟩ := afterAll_of_signed hback rfl hsome
  constructor
  · rw [get?_afterAll hback]
    dsimp only
    rw [hget]
    rfl
  · use hoffset'
    constructor
    · rw [hafter', hafter, hoffset]
      rfl
    · rintro rfl
      cases hback
      use r₁, hr₁
      have hafter : r₁.fieldsAfterSignature = false := hafter
      rw [Payload.remove_insert v hv hnone, ← hoffset, ← hafter]

namespace Payload

/-- What can be read has no signature, or is records without one, the signature, the records
that follow it, and the end mark. When none follows, the records before the signature hold
all other fields. -/
theorem decode_layout {bs : Bytes} {d : Decoded} (h : Payload.decode bs = .ok d) :
  (d.payload.get? .signature = none ∧ d.signatureOffset = none ∧
    d.fieldsAfterSignature = false) ∨
  ∃ m sig rest, d.payload.get? .signature = some (.byteBuffer sig) ∧ sig.length ≤ 255 ∧
    bs = m ++ ([FieldIndex.signature.value, UInt8.ofNat sig.length] ++ sig ++ rest ++
      [FieldIndex.endMark.value]) ∧
    d.signatureOffset = some m.length ∧ d.fieldsAfterSignature = !rest.isEmpty ∧
    (rest = [] → Payload.decode (m ++ [FieldIndex.endMark.value]) =
      .ok ⟨d.payload.remove .signature, none, false⟩)
  := by
  obtain ⟨ps, r, rfl, hfit, hr, rfl⟩ := decode_eq_ok_iff.1 h
  rcases unsigned_or_split ps with hps | ⟨front, v, written, padding, back, rfl, hfront⟩
  · left
    obtain ⟨hoffset, hafter⟩ := Reading.afterAll_of_unsigned hr hps rfl
    use get?_of_unsigned hr hps, hoffset, hafter
  · right
    obtain ⟨hfitFront, hfitSignature, hfitBack⟩ := fit_append.1 hfit
    obtain ⟨sig, rfl, hlength, rfl, rfl⟩ := fits_signature hfitSignature
    obtain ⟨hget, hoffset, hafter, hfrontRead⟩ := Reading.afterAll_signature hr hfront
    use octets front, sig, octets back, hget, hlength
    constructor
    · simp [octets, Piece.octets]
    · use hoffset
      constructor
      · rw [hafter, Bool.eq_iff_iff]
        simp [octets_eq_nil_iff hfitBack]
      · intro hback
        obtain ⟨r₁, hr₁, hd⟩ := hfrontRead ((octets_eq_nil_iff hfitBack).1 hback)
        rw [decode_octets (hfitFront.of_ne_zero (by decide)) hr₁, hd]

end Payload

/-! ### Keys -/

namespace DecodedKey

/-- What reading a key has gone through. -/
theorem ofText_eq_ok {s : String} {k : DecodedKey} (h : DecodedKey.ofText s = .ok k) :
  ∃ version body, KeyText.split? s.toList = some (version, body) ∧
    KeyVersion.ofChars version = .ok k.version ∧ Symbols.decode body = .ok k.octets ∧
    Payload.decode k.octets = .ok k.decoded ∧ k.payload.checkReader = .ok ()
  := by
  unfold ofText at h
  cases hsplit : KeyText.split? s.toList with
  | none =>
    rw [hsplit] at h
    cases h
  | some q =>
    rw [hsplit] at h
    obtain ⟨v, hversion, h₁⟩ := bind_ok_iff.1 h
    obtain ⟨bs, hbs, h₂⟩ := bind_ok_iff.1 h₁
    obtain ⟨d, hd, h₃⟩ := bind_ok_iff.1 h₂
    obtain ⟨u, hcheck, h₄⟩ := bind_ok_iff.1 h₃
    cases h₄
    use q.1, q.2, rfl, hversion, hbs, hd, hcheck

/-- The octets that are signed stand in front of the signature, which stands in front of the
end mark, and they hold every field but the signature. -/
theorem layout_of_signedBytes? {k : DecodedKey} (hk : Payload.decode k.octets = .ok k.decoded)
    {m : Bytes} (h : k.signedBytes? = some m) :
  ∃ sig, k.payload.get? .signature = some (.byteBuffer sig) ∧
    k.octets = m ++ ([FieldIndex.signature.value, UInt8.ofNat sig.length] ++ sig ++
      [FieldIndex.endMark.value]) ∧
    Payload.decode (m ++ [FieldIndex.endMark.value]) =
      .ok ⟨k.payload.remove .signature, none, false⟩
  := by
  rw [signedBytes?] at h
  rcases Payload.decode_layout hk with ⟨-, hoffset, hafter⟩ |
    ⟨m', sig, rest, hget, -, hoctets, hoffset, hafter, hdecode⟩
  · rw [hafter, hoffset] at h
    cases h
  · rw [hafter, hoffset] at h
    cases rest with
    | nil =>
      obtain rfl : m' = m := by simpa [hoctets] using h
      use sig, hget
      constructor
      · rw [hoctets, List.append_nil]
      · apply hdecode rfl
    | cons b rest => cases h

end DecodedKey

end Entitlement
