import Entitlement.Proofs.Consumption.Signed

/-!
# Hidden licenses

A license counts only when none yielded before it is the same. What is the same is decided
by the fields of a key alone, whereas a grant also needs the version of the key and the
octets that were signed: two keys can be the same and only one of them granted. A request is
granted exactly when the first of some class of licenses that are the same grants it
(`Request.isGranted_iff`), so that a license can be hidden by a copy of itself which is not
believed (`Request.relabelled_copy_hides`), and by no other copy under the same policy
(`Request.isGranted_iff_of_signed`).
-/

namespace Entitlement

/-- A license that is the same as one that grants something, under the same policy, grants
it as well, unless its signature is not accepted. -/
theorem License.grant_of_same [SignatureScheme] {l m : License} {g : Grant}
    (hsame : l.same m = true) (htrust : l.trust = m.trust)
    (hsigned : ∀ k, m.decoded = .ok k → m.origin = .keyText →
      m.trust.verifySignature k = .ok ())
    (hl : l.grant = .ok g) :
  m.grant = .ok g
  := by
  obtain ⟨k, hk, -, hgrant⟩ := License.grant_eq_ok_iff.1 hl
  have hidentity := (License.same_iff l m).1 hsame
  rw [License.identity, License.identity, hk] at hidentity
  obtain ⟨-, hfields⟩ := Prod.mk.inj hidentity
  apply License.grant_eq_ok_iff.2
  cases hm : m.decoded with
  | error e =>
    rw [hm] at hfields
    cases hfields
  | ok k' =>
    rw [hm] at hfields
    have hpayload : k.payload = k'.payload := Sum.inr.inj hfields
    use k', rfl, hsigned k' hm
    rw [← hpayload, ← htrust]
    apply hgrant

namespace Request

/-! ### Grants -/

section

variable [SignatureScheme] (r : Request) (today : Date)

/-- Some license yielded has the first place among those that are the same, and the request
is granted by it. -/
def HasLeader (ls : List License) : Prop :=
  ∃ before l after, ls = before ++ l :: after ∧ (∀ m ∈ before, l.same m = false) ∧
    r.isGrantedBy today l = true

/-- Each license by which the request is granted comes after one that is the same and by
which it is not. -/
def AllHidden (ls : List License) : Prop :=
  ∀ before l after, ls = before ++ l :: after → r.isGrantedBy today l = true →
    ∃ m ∈ before, l.same m = true ∧ r.isGrantedBy today m = false

theorem HasLeader.exists {ls : List License} (h : r.HasLeader today ls) :
  ∃ l ∈ ls, r.isGrantedBy today l = true
  := by
  obtain ⟨before, l, after, rfl, -, hl⟩ := h
  use l, List.mem_append_right before List.mem_cons_self

theorem not_hasLeader_iff (ls : List License) :
  ¬ r.HasLeader today ls ↔ r.AllHidden today ls
  := by
  constructor
  · intro h before l after hls hl
    cases hm : before.find? l.same with
    | none =>
      have hbefore : ∀ m ∈ before, l.same m = false := by simpa using hm
      exact absurd ⟨before, l, after, hls, hbefore, hl⟩ h
    | some m =>
      obtain ⟨hlm, front, rest, hbefore, hfront⟩ := List.find?_eq_some_iff_append.1 hm
      use m, List.mem_of_find?_eq_some hm, hlm
      by_contra hgrant
      apply h
      use front, m, rest ++ l :: after
      constructor
      · rw [hls, hbefore, List.append_assoc, List.cons_append]
      · constructor
        · intro n hn
          rw [← License.same_congr hlm]
          simpa using hfront n hn
        · simpa using hgrant
  · rintro h ⟨before, l, after, hls, hbefore, hl⟩
    obtain ⟨m, hm, hsame, -⟩ := h before l after hls hl
    rw [hbefore m hm] at hsame
    cases hsame

/-- A license is not hidden when the request is granted by all that are the same. -/
theorem HasLeader.of_forall_same {ls : List License} {l : License} (hl : l ∈ ls)
    (hgranted : r.isGrantedBy today l = true)
    (hsame : ∀ m ∈ ls, l.same m = true → r.isGrantedBy today m = true) :
  r.HasLeader today ls
  := by
  by_contra hno
  obtain ⟨before, after, hls⟩ := List.append_of_mem hl
  obtain ⟨m, hm, hlm, hdenied⟩ := (r.not_hasLeader_iff today ls).1 hno before l after hls hgranted
  have hmem : m ∈ ls := by
    rw [hls]
    apply List.mem_append_left _ hm
  rw [hsame m hmem hlm] at hdenied
  cases hdenied

theorem isGranted_iff_hasLeader (sources : List Source) :
  (r.decide today [] sources).1.isGranted = true ↔ r.HasLeader today (yields sources).flatten
  := by
  rw [Decision.isGranted, grantedBy_decide, Option.isSome_map, List.find?_isSome]
  constructor
  · rintro ⟨l, hl, hgrant⟩
    obtain ⟨before, after, hls, hbefore⟩ := (mem_candidates sources).1 hl
    use before, l, after
  · rintro ⟨before, l, after, hls, hbefore, hgrant⟩
    use l, (mem_candidates sources).2 ⟨before, after, hls, hbefore⟩

/-- A request is granted exactly when it is granted by a license that has the first place
among those that are the same. So it is granted whenever some license yielded grants it,
and only then, except where there are such licenses and all of them are hidden. -/
theorem isGranted_iff (sources : List Source) :
  ((r.decide today [] sources).1.isGranted = true ↔
    r.HasLeader today (yields sources).flatten) ∧
  (((r.decide today [] sources).1.isGranted = true ↔
      ∃ l ∈ (yields sources).flatten, r.isGrantedBy today l = true) ↔
    ¬ ((∃ l ∈ (yields sources).flatten, r.isGrantedBy today l = true) ∧
      r.AllHidden today (yields sources).flatten))
  := by
  use r.isGranted_iff_hasLeader today sources
  rw [r.isGranted_iff_hasLeader today sources, ← not_hasLeader_iff]
  constructor
  · rintro h ⟨hex, hno⟩
    apply hno (h.2 hex)
  · intro h
    use fun hleader => hleader.exists
    intro hex
    by_contra hno
    apply h ⟨hex, hno⟩

/-- Nothing is hidden when one policy decides about all licenses and the signatures of all
keys from outside are accepted. -/
theorem isGranted_iff_of_signed {sources : List Source} {trust : TrustPolicy}
    (htrust : ∀ l ∈ (yields sources).flatten, l.trust = trust)
    (hsigned : ∀ l ∈ (yields sources).flatten, ∀ k, l.decoded = .ok k → l.origin = .keyText →
      trust.verifySignature k = .ok ()) :
  (r.decide today [] sources).1.isGranted = true ↔
    ∃ l ∈ (yields sources).flatten, r.isGrantedBy today l = true
  := by
  rw [isGranted_iff_hasLeader]
  constructor
  · apply HasLeader.exists
  · rintro ⟨l, hl, hgranted⟩
    apply HasLeader.of_forall_same r today hl hgranted
    intro m hm hsame
    obtain ⟨g, hg, hallows⟩ := (r.isGrantedBy_iff today).1 hgranted
    have hgrant : m.grant = .ok g := by
      apply License.grant_of_same hsame _ _ hg
      · rw [htrust l hl, htrust m hm]
      · rw [htrust m hm]
        apply hsigned m hm
    apply (r.isGrantedBy_iff today).2 ⟨g, hgrant, hallows⟩

end

/-! ### A key hidden by its copy -/

/-- The symbols as they were issued, behind a copy that is relabelled as a key of version 1. -/
def relabelledSources : List Source :=
  [.ofKeys issuerTrust ["1-" ++ enterpriseSymbols, "2-" ++ enterpriseSymbols]]

/-- Nothing is granted when the relabelled copy comes first, although the key itself grants
the request. -/
theorem relabelled_copy_hides :
  ¬ (((⟨.core, "Acme"⟩ : Request).decide .keyEpoch [] relabelledSources).1.isGranted = true ↔
    ∃ l ∈ (yields relabelledSources).flatten,
      (⟨.core, "Acme"⟩ : Request).isGrantedBy .keyEpoch l = true)
  := by
  intro h
  -- Both verdicts are evaluated together, since they read the same two keys.
  have hverdicts :
      ((⟨.core, "Acme"⟩ : Request).decide .keyEpoch [] relabelledSources).1.isGranted = false ∧
      (yields relabelledSources).flatten.any
        ((⟨.core, "Acme"⟩ : Request).isGrantedBy .keyEpoch) = true := by
    decide +kernel
  obtain ⟨hdenied, hsome⟩ := hverdicts
  rw [h.2 (List.any_eq_true.1 hsome)] at hdenied
  cases hdenied

end Request

end Entitlement
