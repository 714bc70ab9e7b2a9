import Entitlement.Proofs.Key.Canonical
import Entitlement.Proofs.Key.Signed

/-!
# What a signature covers

The octets that a signature is made for hold every field of the key but the signature: they
stand in front of it, nothing but the end mark stands behind it, and with an end mark of
their own they are read as the fields of the key without the signature. So two keys with the
same signed octets differ in their signatures at most. There are no signed octets exactly if
there is no signature or some record, whether it is known or passed over, follows it
(`DecodedKey.signature_covers`).
-/

namespace Entitlement

open Pieces

/-! ### Pieces behind the signature -/

/-- The signature is among the pieces, and not the last one. -/
def Pieces.FollowSignature (ps : List Piece) : Prop :=
  ∃ front s back, ps = front ++ s :: back ∧ s.isSignature = true ∧ back ≠ []

namespace Reading

variable {r : Reading} {ps : List Piece}

/-- A reading of pieces either has no signature and no place of one, or has both. -/
theorem signatureOffset_eq_none_iff (h : Reading.start.afterAll 0 ps = .ok r) :
  r.signatureOffset = none ↔ r.payload.get? .signature = none
  := by
  rcases unsigned_or_split ps with hps | ⟨front, v, written, padding, back, rfl, hfront⟩
  · rw [(afterAll_of_unsigned h hps rfl).1, get?_of_unsigned h hps]
    simp
  · obtain ⟨hget, hoffset, -, -⟩ := afterAll_signature h hfront
    rw [hget, hoffset]
    simp

/-- A reading of pieces tells whether there are some behind the signature. -/
theorem fieldsAfterSignature_iff (h : Reading.start.afterAll 0 ps = .ok r) :
  r.fieldsAfterSignature = true ↔ FollowSignature ps
  := by
  constructor
  · intro hafter
    rcases unsigned_or_split ps with hps | ⟨front, v, written, padding, back, rfl, hfront⟩
    · rw [(afterAll_of_unsigned h hps rfl).2] at hafter
      cases hafter
    · use front, .field .signature v written padding, back, rfl, rfl
      rintro rfl
      rw [(afterAll_signature h hfront).2.2.1] at hafter
      cases hafter
  · rintro ⟨front, s, back, rfl, hs, hback⟩
    obtain ⟨v, written, padding, rfl⟩ := Piece.eq_of_isSignature hs
    obtain ⟨r₁, -, hrest⟩ := afterAll_append_eq_ok_iff.1 h
    obtain ⟨r₂, hr₂, hlast⟩ := afterAll_cons_eq_ok_iff.1 hrest
    obtain ⟨-, hv, rfl⟩ := after_field_eq_ok_iff.1 hr₂
    have hsome : (r₁.payload.insert .signature v hv).get? .signature ≠ none := by
      rw [Payload.get?_insert, if_pos rfl]
      rintro ⟨⟩
    rw [(afterAll_of_signed hlast rfl hsome).2]
    simp [hback]

end Reading

/-! ### Keys -/

theorem Payload.length_signature_le {bs sig : Bytes} {d : Decoded}
    (h : Payload.decode bs = .ok d) (hsig : d.payload.get? .signature = some (.byteBuffer sig)) :
  sig.length ≤ 255
  := by
  rcases decode_layout h with ⟨hnone, -⟩ | ⟨m, sig', rest, hget, hlength, -⟩
  · rw [hnone] at hsig
    cases hsig
  · rw [hget] at hsig
    cases hsig
    apply hlength

namespace DecodedKey

theorem signedBytes?_eq_none_iff (k : DecodedKey) :
  k.signedBytes? = none ↔
    k.decoded.signatureOffset = none ∨ k.decoded.fieldsAfterSignature = true
  := by
  rw [signedBytes?]
  cases k.decoded.fieldsAfterSignature <;> simp

/-- The signature covers every other field. Where a key has signed octets, its octets are
these, the signature, and the end mark, and the signed octets with an end mark behind them
hold the fields of the key without the signature; a key with the same signed octets has the
same fields but for the signature. A key has none exactly if it has no signature or some
piece follows that; and its octets are made of pieces in one way only. -/
theorem signature_covers {text : String} {k : DecodedKey} (h : DecodedKey.ofText text = .ok k) :
  ∃ front body, KeyText.split? text.toList = some (front, body) ∧
    Symbols.decode body = .ok k.octets ∧
  (∀ m, k.signedBytes? = some m →
    ∃ sig d, k.payload.get? .signature = some (.byteBuffer sig) ∧ sig.length ≤ 255 ∧
      k.octets = m ++ [16, UInt8.ofNat sig.length] ++ sig ++ [255] ∧
      Payload.decode (m ++ [255]) = .ok d ∧ d.payload = k.payload.remove .signature) ∧
  (∀ text' k' m, DecodedKey.ofText text' = .ok k' → k.signedBytes? = some m →
    k'.signedBytes? = some m → ∀ i, i ≠ .signature → k'.payload.get? i = k.payload.get? i) ∧
  ∃ ps, Layout k.octets ps ∧ (∀ qs, Layout k.octets qs → qs = ps) ∧
    (k.signedBytes? = none ↔ k.payload.get? .signature = none ∨ FollowSignature ps)
  := by
  obtain ⟨front, body, hsplit, -, hbody, hdecode, -⟩ := ofText_eq_ok h
  use front, body, hsplit, hbody
  constructor
  · intro m hm
    obtain ⟨sig, hget, hoctets, hfront⟩ := layout_of_signedBytes? hdecode hm
    use sig, ⟨k.payload.remove .signature, none, false⟩, hget,
      Payload.length_signature_le hdecode hget
    constructor
    · rw [hoctets]
      simp only [List.append_assoc]
      rfl
    · use hfront
  · constructor
    · intro text' k' m h' hm hm' i hi
      obtain ⟨-, -, -, -, -, hdecode', -⟩ := ofText_eq_ok h'
      obtain ⟨-, -, -, hfront⟩ := layout_of_signedBytes? hdecode hm
      obtain ⟨-, -, -, hfront'⟩ := layout_of_signedBytes? hdecode' hm'
      have hpayload : k'.payload.remove .signature = k.payload.remove .signature :=
        congrArg Decoded.payload (Except.ok.inj (hfront'.symm.trans hfront))
      have hget := congrArg (·.get? i) hpayload
      simpa only [Payload.get?_remove, if_neg hi] using hget
    · obtain ⟨ps, r, hoctets, hfit, hr, hd⟩ := Payload.decode_eq_ok_iff.1 hdecode
      use ps, ⟨hoctets, hfit⟩, fun qs hqs => eq_of_layout hqs ⟨hoctets, hfit⟩
      rw [signedBytes?_eq_none_iff, payload, ← hd, Reading.signatureOffset_eq_none_iff hr,
        Reading.fieldsAfterSignature_iff hr]

/-- A key with a signature of three octets behind three other fields. -/
theorem signature_covers_signedPayload :
  ∃ k m d, DecodedKey.ofText "2-2W3N4T533J2KG45VF5LWZ4S3222322S32A3ZY" = .ok k ∧
    k.signedBytes? = some m ∧ k.octets = m ++ [16, 3] ++ [1, 2, 3] ++ [255] ∧
    Payload.decode (m ++ [255]) = .ok d ∧ d.payload = k.payload.remove .signature
  := by
  have hrun : (DecodedKey.ofText "2-2W3N4T533J2KG45VF5LWZ4S3222322S32A3ZY").toOption.map
      (fun k => (k.signedBytes?.isSome, k.payload.get? .signature)) =
        some (true, some (.byteBuffer [1, 2, 3])) := by
    decide +kernel
  obtain ⟨k, hk, hread⟩ := Option.map_eq_some_iff.1 hrun
  obtain ⟨hsigned, hget⟩ := Prod.mk.inj hread
  obtain ⟨m, hm⟩ := Option.isSome_iff_exists.1 hsigned
  have hk := eq_ok_of_toOption hk
  obtain ⟨-, -, -, -, hcovers, -⟩ := signature_covers hk
  obtain ⟨sig, d, hsig, -, hoctets, hdecode, hd⟩ := hcovers m hm
  cases hget.symm.trans hsig
  use k, m, d, hk, hm, hoctets, hdecode, hd

end DecodedKey

end Entitlement
