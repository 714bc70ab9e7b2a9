import Entitlement.Proofs.Key.Pieces

/-!
# Payloads that are cut off

What is read of octets that can be read ends where they end: a front part of them is found
to be truncated and nothing else, and octets behind them are found to trail. So no payload
begins with another one (`Payload.decode_delimited`).

A reader that takes octets off the front delimits them when it takes the same ones whatever
stands behind them, and finds each part of them that is cut off truncated
(`Reader.Delimits`). Readers made of such readers are such readers
(`Reader.closed_delimits`). Only a truth value is not delimited in this way, for its form
depends on the octet behind it: of the long form the first octet alone can be read, and the
payload is then cut off behind it (`Reader.bare_bool_cut`).
-/

namespace Entitlement

open Pieces

/-! ### Front parts -/

/-- A front part of two lists one after the other is a proper one of the first list, or all of
the first list and a front part of the second. -/
theorem isPrefix_append_cases {cut front back : Bytes} (h : cut <+: front ++ back) :
  (cut <+: front ∧ cut ≠ front) ∨ ∃ cut', cut = front ++ cut' ∧ cut' <+: back
  := by
  by_cases hfront : front <+: cut
  · right
    obtain ⟨cut', rfl⟩ := hfront
    use cut', rfl
    apply (List.prefix_append_right_inj front).1 h
  · left
    constructor
    · apply (List.prefix_or_prefix_of_prefix h (List.prefix_append front back)).resolve_right
      apply hfront
    · rintro rfl
      apply hfront List.prefix_rfl

/-! ### Readers that delimit what they read -/

/-- The reader takes the same octets off the front whatever stands behind them, and finds each
proper front part of them truncated. -/
def Reader.Delimits {α : Type} (m : Reader α) : Prop :=
  ∀ (bs : Bytes) (a : α) (rest : Bytes), m bs = .ok (a, rest) →
    ∃ front, bs = front ++ rest ∧ (∀ tail, m (front ++ tail) = .ok (a, tail)) ∧
      ∀ cut, cut <+: front → cut ≠ front → m cut = .error .truncated

namespace Reader

variable {α β : Type}

theorem bind_of_error {m : Reader α} {f : α → Reader β} {bs : Bytes} {e : KeyError}
    (h : m bs = .error e) :
  (m >>= f) bs = .error e
  := by
  change (m bs >>= fun p => f p.1 p.2) = _
  rw [h]
  rfl

theorem Delimits.truncated {m : Reader α} (hm : m.Delimits) {front rest : Bytes} {a : α}
    (h : m (front ++ rest) = .ok (a, rest)) {cut : Bytes} (hcut : cut <+: front)
    (hne : cut ≠ front) :
  m cut = .error .truncated
  := by
  obtain ⟨front', hfront, -, htruncated⟩ := hm _ _ _ h
  obtain rfl : front = front' := List.append_cancel_right hfront
  apply htruncated cut hcut hne

theorem Delimits.bind {m : Reader α} {f : α → Reader β} (hm : Delimits m)
    (hf : ∀ a, Delimits (f a)) :
  Delimits (m >>= f)
  := by
  intro bs b rest h
  obtain ⟨a, mid, ha, hb⟩ := bind_eq_ok_iff.1 h
  obtain ⟨front, rfl, hall, htruncated⟩ := hm _ _ _ ha
  obtain ⟨front', rfl, hall', htruncated'⟩ := hf a _ _ _ hb
  use front ++ front', (List.append_assoc front front' rest).symm
  constructor
  · intro tail
    rw [List.append_assoc, bind_of_ok (hall _)]
    apply hall'
  · intro cut hcut hne
    rcases isPrefix_append_cases hcut with ⟨hcut, hne⟩ | ⟨cut', rfl, hcut'⟩
    · apply bind_of_error (htruncated cut hcut hne)
    · rw [bind_of_ok (hall _)]
      apply htruncated' cut' hcut'
      rintro rfl
      apply hne rfl

theorem delimits_octet :
  Delimits octet
  := by
  intro bs b rest h
  obtain rfl := octet_eq_ok_iff.1 h
  use [b], rfl, fun _ => rfl
  intro cut hcut hne
  rcases List.prefix_cons_iff.1 hcut with rfl | ⟨cut', rfl, hcut'⟩
  · rfl
  · exact absurd (congrArg (b :: ·) (List.prefix_nil.1 hcut')) hne

theorem octets_of_length_lt {n : Nat} {bs : Bytes} (h : bs.length < n) :
  octets n bs = .error .truncated
  := if_neg (Nat.not_le.2 h)

theorem delimits_octets (n : Nat) :
  Delimits (octets n)
  := by
  intro bs front rest h
  obtain ⟨rfl, rfl⟩ := octets_eq_ok_iff.1 h
  use front, rfl, fun tail => octets_eq_ok_iff.2 ⟨rfl, rfl⟩
  intro cut hcut hne
  apply octets_of_length_lt
  apply Nat.lt_of_le_of_ne hcut.length_le
  intro hlength
  apply hne (hcut.eq_of_length hlength)

theorem closed_delimits :
  Closed Delimits
  where
  pure a := by
    intro bs b rest h
    obtain ⟨rfl, rfl⟩ := pure_eq_ok_iff.1 h
    use [], rfl, fun _ => rfl
    intro cut hcut hne
    exact absurd (List.prefix_nil.1 hcut) hne
  throw e := by
    intro _ _ _ h
    cases h
  bind := Delimits.bind
  octet := delimits_octet
  octets := delimits_octets

/-- A truth value that is cut off is truncated, or nothing but the octet of its value is left,
which is then read as the short form. -/
theorem bare_bool_cut {i : FieldIndex} {wide x : Bool} {next : Option UInt8}
    {padding cut : Bytes} (h : Padded wide next (.bool x) padding)
    (hcut : cut <+: (if x then 1 else 0) :: padding) (hne : cut ≠ (if x then 1 else 0) :: padding) :
  bare i wide .bool cut = .error .truncated ∨
    bare i wide .bool cut = .ok ((.bool x, false), [])
  := by
  rcases List.prefix_cons_iff.1 hcut with rfl | ⟨cut', rfl, hcut'⟩
  · left
    rfl
  · have hne' : cut' ≠ padding := fun heq => hne (congrArg _ heq)
    have hlt : cut'.length < padding.length :=
      Nat.lt_of_le_of_ne hcut'.length_le fun heq => hne' (hcut'.eq_of_length heq)
    cases h with
    | plain hv => exact absurd rfl hv
    | short => cases hlt
    | long hlength hwide =>
      have hoctet : octet ((if x then 1 else 0) :: cut') = .ok (if x then 1 else 0, cut') := rfl
      have hpeek : peek cut' = .ok (cut'.head?, cut') := rfl
      unfold bare
      dsimp only
      rw [bind_of_ok hoctet, bind_of_ok hpeek]
      split
      · left
        apply bind_of_error (octets_of_length_lt (hlength ▸ hlt))
      · rename_i hshort
        right
        simp only [Bool.or_eq_true, decide_eq_true_eq, not_or, Bool.not_eq_true] at hshort
        obtain ⟨rfl, hhead⟩ := hshort
        -- A second octet would be the zero by which the long form is known.
        obtain rfl : cut' = [] := by
          cases cut' with
          | nil => rfl
          | cons c cut' =>
            obtain ⟨rest, rfl⟩ := hcut'
            exact absurd (hwide.resolve_left (by rintro ⟨⟩)) hhead
        rw [bind_of_ok (boolean_eq_ok_iff.2 ⟨x, rfl, rfl, rfl⟩)]
        rfl

end Reader

namespace Reading

/-- The record of a field that is no truth value is delimited. -/
theorem delimits_record (r : Reading) (offset : Nat) {i : FieldIndex}
    (hi : i.type? ≠ some .bool) :
  (r.record offset i).Delimits
  := by
  apply Reader.closed_delimits.record
  intro t ht
  rw [Reader.bare_of_ne_bool (by rintro rfl; apply hi ht)]
  exact (Reader.closed_delimits.value i t).bind fun _ => Reader.closed_delimits.pure _

/-- A record that is cut off behind its index is truncated, or it is read and nothing is left. -/
theorem record_cut {r r' : Reading} {offset : Nat} {p : Piece} {next : Option UInt8}
    {tail cut : Bytes} (hp : p.Fits r.longBooleans next) (hafter : r.after offset p = .ok r')
    (htail : p.octets = p.index.value :: tail) (hcut : cut <+: tail) (hne : cut ≠ tail) :
  r.record offset p.index cut = .error .truncated ∨
    ∃ r₁, r.record offset p.index cut = .ok (r₁, [])
  := by
  by_cases hi : p.index.type? = some .bool
  · cases p with
    | skipped i body => cases hp.1.symm.trans hi
    | field i v written padding =>
      have hbool : i.type? = some .bool := hi
      obtain ⟨hrecord, -, hpadded⟩ := hp
      obtain ⟨htype, body, hbody, rfl⟩ := FieldIndex.record_eq_ok_iff.1 hrecord
      obtain ⟨x, rfl⟩ : ∃ x, v = .bool x := by
        rw [hbool] at htype
        cases v with
        | bool x => exact ⟨x, rfl⟩
        | _ => cases htype
      cases hbody
      have hprefixed := FieldIndex.isPrefixed_of_bool hbool
      rw [Piece.octets, hprefixed] at htail
      obtain rfl := (List.cons.inj htail).2
      rw [Piece.index, record_bare hbool hprefixed]
      rcases Reader.bare_bool_cut hpadded hcut hne with htruncated | hread
      · left
        apply Reader.bind_of_error htruncated
      · right
        obtain ⟨hnone, hv, -⟩ := after_field_eq_ok_iff.1 hafter
        rw [Reader.bind_of_ok hread]
        exact ⟨_, Reader.lift_eq_ok_iff.2 ⟨field_eq_ok_iff.2 ⟨hnone, hv, rfl⟩, rfl⟩⟩
  · left
    obtain ⟨tail', htail', hread⟩ : ∃ tail, p.octets = p.index.value :: tail ∧
        r.record offset p.index (tail ++ next.toList) =
          (r.after offset p).map fun r => (r, next.toList) :=
      record_piece (by cases next <;> exact hp)
    rw [htail] at htail'
    cases htail'
    rw [hafter] at hread
    apply (delimits_record r offset hi).truncated hread hcut hne

theorem run_nil (size : Nat) (r : Reading) :
  r.run size [] = .error .truncated
  := by
  unfold run
  rfl

theorem run_trailing (size : Nat) (r : Reading) {tail : Bytes} (h : tail ≠ []) :
  r.run size (FieldIndex.endMark.value :: tail) = .error (.trailingBytes tail.length)
  := by
  unfold run
  rw [if_pos rfl, if_neg (by simpa using h)]

/-- Pieces that are cut off, or have no end mark behind them, are truncated. -/
theorem run_cut {size : Nat} {r r' : Reading} {ps : List Piece} {cut : Bytes}
    (hfit : Fit r.longBooleans (some FieldIndex.endMark.value) ps) (hsize : cut.length ≤ size)
    (hall : r.afterAll (size - cut.length) ps = .ok r') (hcut : cut <+: octets ps) :
  r.run size cut = .error .truncated
  := by
  induction ps generalizing r cut with
  | nil =>
    obtain rfl := List.prefix_nil.1 hcut
    apply run_nil
  | cons p ps ih =>
    obtain ⟨hp, hps⟩ := hfit
    obtain ⟨r₁, hafter, hrest⟩ := afterAll_cons_eq_ok_iff.1 hall
    rw [octets_cons] at hcut
    rcases isPrefix_append_cases hcut with ⟨hcut, hne⟩ | ⟨cut', rfl, hcut'⟩
    · obtain ⟨tail, htail, hend, -⟩ := p.octets_eq_cons hp
      rw [htail] at hcut hne
      rcases List.prefix_cons_iff.1 hcut with rfl | ⟨cut', rfl, hcut'⟩
      · apply run_nil
      · rw [run_cons hend]
        rcases record_cut hp hafter htail hcut' (fun heq => hne (congrArg _ heq)) with
          htruncated | ⟨r₂, hread⟩
        · rw [List.length_cons] at htruncated
          rw [htruncated]
          rfl
        · rw [List.length_cons] at hread
          rw [hread]
          apply run_nil
    · have hnext : cut'.head? ≠ some 0 := by
        intro hzero
        obtain ⟨lost, hlost⟩ := hcut'
        apply head?_octets_ne_zero hps (by decide)
        rw [← hlost, List.head?_append, hzero]
        rfl
      rw [List.length_append] at hsize
      have hoffset : size - (p.octets ++ cut').length + p.octets.length = size - cut'.length := by
        rw [List.length_append]
        omega
      rw [← longBooleans_after hafter] at hps
      rw [hoffset] at hrest
      rw [run_piece (hp.of_ne_zero hnext), hafter]
      apply ih hps (by omega) hrest hcut'

end Reading

/-! ### Payloads -/

/-- Octets that can be read are delimited: every proper front part of them, the empty one as
well, is truncated, and what stands behind them is found to trail. So no octets that can be
read are a proper front part of others. -/
theorem Payload.decode_delimited {bs : Bytes} {d : Decoded} (h : Payload.decode bs = .ok d) :
  (∀ cut, cut <+: bs → cut ≠ bs → Payload.decode cut = .error .truncated) ∧
  (∀ tail, tail ≠ [] → Payload.decode (bs ++ tail) = .error (.trailingBytes tail.length)) ∧
  ∀ bs' d', Payload.decode bs' = .ok d' → bs <+: bs' ∨ bs' <+: bs → bs' = bs
  := by
  obtain ⟨ps, r, rfl, hfit, hr, rfl⟩ := decode_eq_ok_iff.1 h
  have hcut (bs' : Bytes) (hbs' : bs' <+: octets ps ++ [FieldIndex.endMark.value])
      (hne : bs' ≠ octets ps ++ [FieldIndex.endMark.value]) :
      Payload.decode bs' = .error .truncated := by
    apply Reading.run_cut hfit (Nat.le_refl _)
    · rw [Nat.sub_self]
      apply hr
    · apply (List.prefix_concat_iff.1 hbs').resolve_left hne
  have htail (tail : Bytes) (htail : tail ≠ []) :
      Payload.decode (octets ps ++ [FieldIndex.endMark.value] ++ tail) =
        .error (.trailingBytes tail.length) := by
    rw [List.append_assoc, decode, Reading.run_pieces hfit (Nat.le_refl _), Nat.sub_self, hr]
    apply Reading.run_trailing
    apply htail
  use hcut, htail
  rintro bs' d' hd' (⟨tail, rfl⟩ | hbs')
  · cases tail with
    | nil => apply List.append_nil
    | cons b tail =>
      rw [htail (b :: tail) (by rintro ⟨⟩)] at hd'
      cases hd'
  · apply Decidable.byContradiction
    intro hne
    rw [hcut bs' hbs' hne] at hd'
    cases hd'

/-- A truth value in the long form, a text with its length before it, and the end mark. Cut off
behind the octet of the truth value, which alone has the short form, they are truncated. -/
theorem Payload.decode_delimited_auditable :
  ∃ d, Payload.decode [12, 1, 0, 0, 0, 22, 3, 2, 104, 105, 255] = .ok d ∧
    Payload.decode [12, 1] = .error .truncated ∧
    Payload.decode [12, 1, 0, 0, 0, 22, 3, 2, 104, 105, 255, 255] = .error (.trailingBytes 1)
  := by
  have hread : (Payload.decode [12, 1, 0, 0, 0, 22, 3, 2, 104, 105, 255]).toOption.isSome = true := by
    decide +kernel
  obtain ⟨d, hd⟩ := Option.isSome_iff_exists.1 hread
  have hd := eq_ok_of_toOption hd
  obtain ⟨hcut, htail, -⟩ := decode_delimited hd
  use d, hd, hcut [12, 1] (by decide) (by decide)
  apply htail [255] (by decide)

end Entitlement
