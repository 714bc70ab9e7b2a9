import Entitlement.Key.Text
import Entitlement.Proofs.Key.Permuted
import Entitlement.Proofs.Key.Symbols
import Mathlib.Data.Bool.AllAny

/-!
# Keys that have been written

The octets that are written for a payload are read back as what a key keeps of it, with the
signature behind all other records (`Payload.decode_encode`), and so is the text of a key,
unless the key asks for a later reader (`DecodedKey.ofText_keyText`).
-/

namespace Entitlement

open Pieces

/-! ### Payloads -/

namespace Payload

theorem signable_eq (p : Payload) :
  p.signable = writeRecords (p.remove .signature).fields
  := by
  apply congrArg writeRecords
  apply List.filter_congr
  intro f hf
  apply decide_eq_decide.2 ne_comm

theorem remove_of_get?_eq_none {p : Payload} {i : FieldIndex} (h : p.get? i = none) :
  p.remove i = p
  := by
  apply ext_get?
  intro j
  rw [get?_remove]
  split
  · rename_i hj
    rw [hj, h]
  · rfl

/-- The fields under one index may stand behind all others. -/
theorem perm_remove (p : Payload) (i : FieldIndex) :
  ((p.remove i).fields ++ p.fields.filter fun f => f.1 = i).Perm p.fields
  := by
  have hrest : (p.remove i).fields = p.fields.filter fun f => !decide (f.1 = i) := by
    apply List.filter_congr
    intro f hf
    rw [← decide_not, decide_eq_decide]
    apply ne_comm
  rw [hrest]
  exact List.perm_append_comm.trans (List.filter_append_perm _ _)

/-- The fields of a payload with one of them behind all others. -/
theorem perm_fields {p : Payload} {i : FieldIndex} {v : FieldValue} (h : p.get? i = some v) :
  ((p.remove i).fields ++ [(i, v)]).Perm p.fields
  := by
  have hlast : p.fields.filter (fun f => f.1 = i) = [(i, v)] := by
    rw [p.ascending.filter_eq FieldIndex.lt_irrefl]
    change (p.get? i).toList.map _ = _
    rw [h]
    rfl
  rw [← hlast]
  apply p.perm_remove

/-- What the octets of a payload are made of: the records to be signed, that of the
signature, and the end mark. -/
theorem encode_eq_ok {p : Payload} {bs : Bytes} (h : p.encode = .ok bs) :
  ∃ m, p.signable = .ok m ∧
    ((p.get? .signature = none ∧ bs = m ++ [FieldIndex.endMark.value]) ∨
      ∃ v last, p.get? .signature = some v ∧ writeRecords [(.signature, v)] = .ok last ∧
        bs = m ++ last ++ [FieldIndex.endMark.value])
  := by
  obtain ⟨m, hm, h₁⟩ := bind_ok_iff.1 h
  obtain ⟨last, hlast, h₂⟩ := bind_ok_iff.1 h₁
  cases h₂
  use m, hm
  rw [p.ascending.filter_eq FieldIndex.lt_irrefl] at hlast
  change writeRecords ((p.get? .signature).toList.map _) = _ at hlast
  cases hsig : p.get? .signature with
  | none =>
    left
    rw [hsig] at hlast
    cases hlast
    rw [List.append_nil]
    use rfl
  | some v =>
    right
    rw [hsig] at hlast
    use v, last, rfl, hlast

/-- What is written for a payload is read back as what a key keeps of it: the records stand
in one of the orders in which they can be read. -/
theorem decode_encode {p : Payload} {bs : Bytes} (h : p.encode = .ok bs) :
  ∃ m rest, p.signable = .ok m ∧ bs = m ++ rest ∧
    Payload.decode bs =
      .ok ⟨p.kept, if p.contains .signature then some m.length else none, false⟩
  := by
  obtain ⟨m, hm, ⟨hnone, rfl⟩ | ⟨v, last, hsome, hlast, rfl⟩⟩ := encode_eq_ok h
  · use m, [FieldIndex.endMark.value], hm, rfl
    rw [signable_eq, remove_of_get?_eq_none hnone, ← writePadded_false] at hm
    rw [decode_of_unsigned hnone (List.Perm.refl _) hm, contains, hnone]
    rfl
  · use m, last ++ [FieldIndex.endMark.value], hm, List.append_assoc _ _ _
    rw [signable_eq, ← writePadded_false] at hm
    rw [← writePadded_false] at hlast
    rw [decode_of_signed (perm_fields hsome) hm hlast, contains, hsome]
    rfl

end Payload

/-! ### Texts -/

theorem KeyVersion.ofChars_toText (v : KeyVersion) :
  KeyVersion.ofChars v.toText.toList = .ok v
  := by
  cases v <;> rfl

theorem KeyText.split?_keyText (v : KeyVersion) {symbols : List Char}
    (h : ∀ c ∈ symbols, Symbols.isSeparator c = false) :
  KeyText.split? (v.toText ++ "-" ++ String.ofList symbols).toList =
    some (v.toText.toList, symbols)
  := by
  obtain ⟨c, htext, hc⟩ := v.exists_digit
  have hdigit : ∀ c ∈ ['1', '2'], c ≠ '-' ∧ Text.isBlank c = false :=
    List.all_iff_forall_prop.1 (by decide)
  obtain ⟨hdash, hblank⟩ := hdigit c hc
  have hchars : (v.toText ++ "-" ++ String.ofList symbols).toList = c :: '-' :: symbols := by
    simp [htext]
  have htrim : Text.trimChars (c :: '-' :: symbols) = c :: '-' :: symbols := by
    apply Text.trimChars_of_not_isBlank
    intro d hd
    rcases List.mem_cons.1 hd with rfl | hd
    · apply hblank
    · rcases List.mem_cons.1 hd with rfl | hd
      · rfl
      · have := h d hd
        rw [Symbols.isSeparator, Bool.or_eq_false_iff] at this
        apply this.2
  rw [hchars, htext, split?, htrim]
  simp [hdash]

/-! ### The version of the reader -/

namespace Payload

theorem int16?_kept (p : Payload) (i : FieldIndex) :
  p.kept.int16? i = p.int16? i
  := by
  rw [int16?, int16?, get?_kept]
  cases p.get? i with
  | none => rfl
  | some v => cases v <;> rfl

theorem checkReader_kept (p : Payload) :
  p.kept.checkReader = p.checkReader
  := by
  rw [checkReader, checkReader, int16?_kept]

theorem checkReader_eq_error {p : Payload} {required : Int16}
    (h : p.int16? .minRequiredReaderVersion = some required) (hlt : 2 < required) :
  p.checkReader = .error (.readerTooOld required 2)
  := by
  have hnot : ¬ required ≤ readerVersion := Int16.not_le.2 hlt
  rw [checkReader, h]
  dsimp only
  rw [if_neg hnot]
  rfl

theorem checkReader_eq_ok {p : Payload}
    (h : ∀ required, p.int16? .minRequiredReaderVersion = some required → required ≤ 2) :
  p.checkReader = .ok ()
  := by
  rw [checkReader]
  cases hrequired : p.int16? .minRequiredReaderVersion with
  | none => rfl
  | some required =>
    have hle : required ≤ readerVersion := h required hrequired
    dsimp only
    rw [if_pos hle]

end Payload

/-! ### Keys -/

namespace DecodedKey

/-- The text for octets is read as those octets. -/
theorem ofText_encode (v : KeyVersion) (bs : Bytes) :
  DecodedKey.ofText (v.toText ++ "-" ++ String.ofList (Symbols.encode bs)) = do
    let decoded ← Payload.decode bs
    decoded.payload.checkReader
    return ⟨v, bs, decoded⟩
  := by
  rw [ofText, KeyText.split?_keyText v fun c hc => Symbols.isSeparator_of_mem_encode hc]
  dsimp only
  rw [KeyVersion.ofChars_toText, Symbols.decode_encode]
  rfl

/-- The text of a key is read back: as the version and what the key keeps of the payload,
with the octets to be signed if there is a signature, unless the payload asks for a later
reader. -/
theorem ofText_keyText {p : Payload} {v : KeyVersion} {k : String} (h : p.keyText v = .ok k) :
  (∀ required, p.int16? .minRequiredReaderVersion = some required → 2 < required →
    DecodedKey.ofText k = .error (.readerTooOld required 2)) ∧
  ((∀ required, p.int16? .minRequiredReaderVersion = some required → required ≤ 2) →
    ∃ d, DecodedKey.ofText k = .ok d ∧ d.version = v ∧ d.payload = p.kept ∧
      (p.contains .signature = true → ∃ m, p.signable = .ok m ∧ d.signedBytes? = some m) ∧
      (p.contains .signature = false → d.signedBytes? = none) ∧
      d.fieldsAfterSignature = false)
  := by
  obtain ⟨bs, hbs, hk⟩ := bind_ok_iff.1 h
  cases hk
  obtain ⟨m, rest, hm, rfl, hdecode⟩ := Payload.decode_encode hbs
  have hread := ofText_encode v (m ++ rest)
  rw [hdecode] at hread
  change _ = p.kept.checkReader >>= fun _ => _ at hread
  rw [hread, Payload.checkReader_kept]
  constructor
  · intro required hrequired hlt
    rw [Payload.checkReader_eq_error hrequired hlt]
    rfl
  · intro hle
    use ⟨v, m ++ rest, ⟨p.kept, if p.contains .signature then some m.length else none, false⟩⟩
    constructor
    · rw [Payload.checkReader_eq_ok hle]
      rfl
    · use rfl, rfl
      constructor
      · intro hsig
        use m, hm
        simp [signedBytes?, hsig]
      · constructor
        · intro hsig
          simp [signedBytes?, hsig]
        · rfl

/-- A payload with a text, a truth value, an instant below the millisecond and a signature. -/
def signedPayload : Payload :=
  (((Payload.empty.insert .licensee (.string "Ada") (by decide)).insert .auditable (.bool true)
    (by decide)).insert .issuedAt
      (.dateTime ⟨1700000000, 123456789, by decide, by decide, by decide⟩) (by decide)).insert
    .signature (.byteBuffer [1, 2, 3]) (by decide)

theorem ofText_keyText_signedPayload :
  (signedPayload.keyText .v2).toOption = some "2-2W3N4T533J2KG45VF5LWZ4S3222322S32A3ZY" ∧
    ∃ d, DecodedKey.ofText "2-2W3N4T533J2KG45VF5LWZ4S3222322S32A3ZY" = .ok d ∧
      d.payload = signedPayload.kept ∧ ∃ m, d.signedBytes? = some m
  := by
  have htext : (signedPayload.keyText .v2).toOption =
      some "2-2W3N4T533J2KG45VF5LWZ4S3222322S32A3ZY" := by decide +kernel
  use htext
  cases h : signedPayload.keyText .v2 with
  | error e =>
    rw [h] at htext
    cases htext
  | ok k =>
    rw [h] at htext
    cases htext
    have hrequired : signedPayload.int16? .minRequiredReaderVersion = none := by decide
    obtain ⟨d, hd, -, hpayload, hsig, -⟩ := (ofText_keyText h).2 fun _ hr => by
      rw [hrequired] at hr
      cases hr
    obtain ⟨m, -, hm⟩ := hsig (by decide)
    use d, hd, hpayload, m

end DecodedKey

end Entitlement
