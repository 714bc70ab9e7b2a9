import Entitlement.Consumption.Decision
import Mathlib.Data.List.Infix
import Mathlib.Data.List.TakeWhile

/-!
# The order of resolution

The sources are gone through in their order. A license counts when none of those yielded
before it, by the same source or an earlier one, is the same; and of the licenses of one
source that count those without a restriction come before the others. This gives the list
of candidates, `Request.candidates`.

A decision tries the shortest front part of the candidates that ends in a license by which
the request is granted, or all of them, and asks each source up to the one of the last
license tried, once (`Request.decide_order`).
-/

namespace Entitlement.Request

/-! ### Candidates -/

/-- The licenses of `ls` that are not the same as one of `earlier`, or as one before them. -/
def unseen (earlier ls : List License) : List License :=
  ((ls.inits.zip ls).filter fun p => !(earlier ++ p.1).any p.2.same).map (·.2)

/-- What each source yields when it is asked, source by source. -/
def yields (sources : List Source) : List (List License) :=
  sources.map fun s => s.pull.1

/-- The licenses without a restriction, and those with one after them. -/
def grouped (ls : List License) : List License :=
  ls.filter (fun l => l.namespaceRestriction? = none) ++
    ls.filter fun l => l.namespaceRestriction? ≠ none

/-- The licenses that count, source by source, each list in the order of trying. -/
def rounds (earlier : List License) : List (List License) → List (List License)
  | [] => []
  | ls :: lss => grouped (unseen earlier ls) :: rounds (earlier ++ ls) lss

/-- The licenses that count, in the order of trying. -/
def candidates (sources : List Source) : List License :=
  (rounds [] (yields sources)).flatten

theorem unseen_nil (earlier : List License) :
  unseen earlier [] = []
  := rfl

theorem unseen_cons (earlier : List License) (l : License) (ls : List License) :
  unseen earlier (l :: ls) =
    if earlier.any l.same then unseen (earlier ++ [l]) ls
    else l :: unseen (earlier ++ [l]) ls
  := by
  have h : (((ls.inits.map (l :: ·)).zip ls).filter
        fun p => !(earlier ++ p.1).any p.2.same).map (·.2)
      = unseen (earlier ++ [l]) ls := by
    rw [List.zip_map_left, List.filter_map, List.map_map, unseen]
    simp [Function.comp_def]
  rw [unseen, List.inits_cons, List.zip_cons_cons, List.filter_cons, ← h, List.append_nil]
  cases earlier.any l.same <;> rfl

/-- The licenses of a source are tried in these two groups. -/
theorem preferred_eq (ls : List License) :
  preferred ls = grouped ls
  := by
  rw [preferred, grouped]
  congr 1
  · apply List.filter_congr
    intro l _
    cases l.namespaceRestriction? <;> rfl
  · apply List.filter_congr
    intro l _
    cases l.namespaceRestriction? <;> rfl

/-! ### Members of the candidates -/

theorem mem_grouped {l : License} {ls : List License} :
  l ∈ grouped ls ↔ l ∈ ls
  := by
  rw [grouped, List.mem_append, List.mem_filter, List.mem_filter, ← and_or_left]
  cases l.namespaceRestriction? <;> simp

theorem unseen_append (earlier ls ms : List License) :
  unseen earlier (ls ++ ms) = unseen earlier ls ++ unseen (earlier ++ ls) ms
  := by
  induction ls generalizing earlier with
  | nil => rw [unseen_nil, List.append_nil, List.nil_append, List.nil_append]
  | cons l ls ih =>
    rw [List.cons_append, unseen_cons, unseen_cons, ih, List.append_assoc, List.singleton_append]
    split
    · rfl
    · rfl

theorem mem_flatten_rounds {l : License} (earlier : List License) (lss : List (List License)) :
  l ∈ (rounds earlier lss).flatten ↔ l ∈ unseen earlier lss.flatten
  := by
  induction lss generalizing earlier with
  | nil => rfl
  | cons ls lss ih =>
    rw [rounds, List.flatten_cons, List.flatten_cons, List.mem_append, unseen_append,
      List.mem_append, mem_grouped, ih]

theorem mem_unseen {l : License} (earlier ls : List License) :
  l ∈ unseen earlier ls ↔
    ∃ before after, ls = before ++ l :: after ∧ ∀ m ∈ earlier ++ before, l.same m = false
  := by
  induction ls generalizing earlier with
  | nil => simp [unseen_nil]
  | cons k ls ih =>
    have hcons : (∃ before after, k :: ls = before ++ l :: after ∧
          ∀ m ∈ earlier ++ before, l.same m = false) ↔
        (k = l ∧ earlier.any k.same = false) ∨ l ∈ unseen (earlier ++ [k]) ls := by
      rw [ih]
      constructor
      · rintro ⟨before, after, hls, hm⟩
        cases before with
        | nil =>
          obtain ⟨rfl, rfl⟩ := List.cons.inj hls
          left
          simpa using hm
        | cons b before =>
          obtain ⟨rfl, rfl⟩ := List.cons.inj hls
          right
          use before, after, rfl
          simpa using hm
      · rintro (⟨rfl, hk⟩ | ⟨before, after, rfl, hm⟩)
        · use [], ls, rfl
          simpa using hk
        · use k :: before, after, rfl
          simpa using hm
    rw [hcons, unseen_cons]
    cases h : earlier.any k.same with
    | true => simp
    | false => simp [eq_comm]

theorem mem_candidates {l : License} (sources : List Source) :
  l ∈ candidates sources ↔
    ∃ before after, (yields sources).flatten = before ++ l :: after ∧
      ∀ m ∈ before, l.same m = false
  := by
  rw [candidates, mem_flatten_rounds, mem_unseen]
  rfl

/-! ### Licenses seen -/

/-- The licenses of both lists are the same ones. -/
def Covers (seen earlier : List License) : Prop :=
  ∀ l : License, seen.any l.same = earlier.any l.same

theorem Covers.append_seen {seen earlier : List License} (h : Covers seen earlier)
    {l : License} (hl : seen.any l.same = true) :
  Covers seen (earlier ++ [l])
  := by
  intro m
  obtain ⟨s, hs, hls⟩ := List.any_eq_true.1 hl
  rw [List.any_append, ← h m]
  cases hm : m.same l with
  | false => simp [hm]
  | true =>
    have hms : m.same s = true := by rw [License.same_congr hm, hls]
    have : seen.any m.same = true := List.any_eq_true.2 ⟨s, hs, hms⟩
    simp [this]

theorem Covers.append_new {seen earlier : List License} (h : Covers seen earlier)
    (l : License) :
  Covers (l :: seen) (earlier ++ [l])
  := by
  intro m
  rw [List.any_append, ← h m]
  simp [Bool.or_comm]

theorem fresh_eq_unseen {seen earlier : List License} (h : Covers seen earlier)
    (ls : List License) :
  fresh seen ls = unseen earlier ls ∧ Covers (seen ++ fresh seen ls) (earlier ++ ls)
  := by
  induction ls generalizing seen earlier with
  | nil => simpa [fresh, unseen_nil] using h
  | cons l ls ih =>
    rw [unseen_cons, ← h l, fresh, List.append_cons earlier l ls]
    cases hl : seen.any l.same with
    | true => apply ih (h.append_seen hl)
    | false =>
      obtain ⟨heq, hcov⟩ := ih (h.append_new l)
      constructor
      · apply congrArg (l :: ·) heq
      · intro m
        rw [← hcov m]
        simp [Bool.or_left_comm]

/-! ### The licenses tried -/

/-- The list up to the first license with the property, or all of it if there is none. -/
def upTo (p : License → Bool) : List License → List License
  | [] => []
  | l :: ls => if p l then [l] else l :: upTo p ls

/-- A list has no license with a property, or can be split at the first one that has it. -/
theorem none_or_split (p : License → Bool) (ls : List License) :
  (∀ l ∈ ls, p l = false) ∨
    ∃ front l rest, ls = front ++ l :: rest ∧ (∀ m ∈ front, p m = false) ∧ p l = true
  := by
  cases h : ls.find? p with
  | none =>
    left
    simpa using h
  | some l =>
    right
    obtain ⟨hl, front, rest, hls, hfront⟩ := List.find?_eq_some_iff_append.1 h
    use front, l, rest, hls
    constructor
    · simpa using hfront
    · apply hl

theorem upTo_append {p : License → Bool} {front : List License}
    (h : ∀ l ∈ front, p l = false) (ls : List License) :
  upTo p (front ++ ls) = front ++ upTo p ls
  := by
  induction front with
  | nil => rfl
  | cons m front ih =>
    rw [List.cons_append, upTo, h m List.mem_cons_self, ih fun l hl => h l (List.mem_cons_of_mem m hl)]
    rfl

theorem upTo_isPrefix (p : License → Bool) (ls : List License) :
  upTo p ls <+: ls
  := by
  induction ls with
  | nil => apply List.prefix_rfl
  | cons l ls ih =>
    rw [upTo]
    split
    · apply List.prefix_append [l] ls
    · apply List.cons_prefix_cons.2 ⟨rfl, ih⟩

/-- No front part of a list that ends in a license with the property is shorter than the one
up to the first such license. -/
theorem length_upTo_le {p : License → Bool} {ls front : List License} {l : License}
    (h : front ++ [l] <+: ls) (hl : p l = true) :
  (upTo p ls).length ≤ (front ++ [l]).length
  := by
  induction front generalizing ls with
  | nil =>
    obtain ⟨rest, rfl⟩ := h
    rw [List.nil_append, List.cons_append, upTo, if_pos hl]
  | cons m front ih =>
    obtain ⟨rest, rfl⟩ := h
    rw [List.cons_append, List.cons_append, upTo]
    split
    · simp
    · apply Nat.succ_le_succ (ih (List.prefix_append _ rest))

theorem upTo_split {p : License → Bool} {front : List License} {l : License}
    (h : ∀ m ∈ front, p m = false) (hl : p l = true) (rest : List License) :
  upTo p (front ++ l :: rest) = front ++ [l]
  := by
  rw [upTo_append h, upTo, hl]
  rfl

theorem upTo_of_none {p : License → Bool} {ls : List License} (h : ∀ l ∈ ls, p l = false) :
  upTo p ls = ls
  := by
  have := upTo_append h []
  rwa [upTo, List.append_nil] at this

/-- The list up to the first license with the property ends in that license, or is all of
the list. -/
theorem upTo_cases (p : License → Bool) (ls : List License) :
  (∃ front l, upTo p ls = front ++ [l] ∧ p l = true ∧ ls.find? p = some l) ∨
    ((∀ l ∈ ls, p l = false) ∧ upTo p ls = ls ∧ ls.find? p = none)
  := by
  rcases none_or_split p ls with hnone | ⟨front, l, rest, rfl, hfront, hl⟩
  · right
    use hnone, upTo_of_none hnone
    apply List.find?_eq_none.2 (by simpa using hnone)
  · left
    use front, l, upTo_split hfront hl rest, hl
    apply List.find?_eq_some_iff_append.2 ⟨hl, front, rest, rfl, by simpa using hfront⟩

theorem span_split {p : License → Bool} {front : List License} {l : License}
    (h : ∀ m ∈ front, p m = false) (hl : p l = true) (rest : List License) :
  (front ++ l :: rest).span (fun m => !p m) = (front, l :: rest)
  := by
  rw [List.span_eq_takeWhile_dropWhile, List.takeWhile_append_of_pos (by simpa using h),
    List.dropWhile_append_of_pos (by simpa using h)]
  simp [hl]

theorem span_of_none {p : License → Bool} {ls : List License} (h : ∀ l ∈ ls, p l = false) :
  ls.span (fun l => !p l) = (ls, [])
  := by
  have hp : ∀ l ∈ ls, (!p l) = true := by simpa using h
  rw [List.span_eq_takeWhile_dropWhile, List.takeWhile_eq_self_iff.2 hp,
    List.dropWhile_eq_nil_iff.2 hp]

theorem map_take_append_drop {α : Type} (f : α → α) (n : Nat) (xs : List α) :
  (xs.take n).map f ++ xs.drop n = xs.mapIdx fun i x => if i < n then f x else x
  := by
  induction xs generalizing n with
  | nil => simp
  | cons x xs ih =>
    rw [List.mapIdx_cons]
    cases n with
    | zero => simpa using ih 0
    | succ n => simpa using ih n

theorem covers_nil :
  Covers [] []
  := fun _ => rfl

/-! ### Decisions -/

variable [SignatureScheme] (r : Request) (today : Date)

/-- No license of the first source that counts grants the request: the decision is that
about the sources after it. -/
theorem decide_cons_of_none {seen : List License} {s : Source} {sources : List Source}
    (h : ∀ l ∈ preferred (fresh seen s.pull.1), r.isGrantedBy today l = false) :
  r.decide today seen (s :: sources) =
    let (d, after) := r.decide today (seen ++ fresh seen s.pull.1) sources
    (⟨d.grantedBy, (preferred (fresh seen s.pull.1)).map (·.key) ++ d.evaluated⟩,
      s.pull.2 :: after)
  := by
  rw [decide]
  dsimp only
  rw [span_of_none h]

/-- Some license of the first source that counts grants the request: the sources after it
are left alone. -/
theorem decide_cons_of_split {seen : List License} {s : Source} {sources : List Source}
    {front rest : List License} {l : License}
    (hls : preferred (fresh seen s.pull.1) = front ++ l :: rest)
    (hfront : ∀ m ∈ front, r.isGrantedBy today m = false) (hl : r.isGrantedBy today l = true) :
  r.decide today seen (s :: sources) =
    (⟨some l.key, front.map (·.key) ++ [l.key]⟩, s.pull.2 :: sources)
  := by
  rw [decide]
  dsimp only
  rw [hls, span_split hfront hl]

/-- How many sources are asked, given the licenses of each that count: those up to the first
with a license by which the request is granted, or all. -/
def askedCount (lss : List (List License)) : Nat :=
  lss.findIdx (fun ls => ls.any (r.isGrantedBy today)) + 1

theorem askedCount_cons (ls : List License) (lss : List (List License)) :
  r.askedCount today (ls :: lss) =
    if ls.any (r.isGrantedBy today) then 1 else r.askedCount today lss + 1
  := by
  unfold askedCount
  rw [List.findIdx_cons]
  cases ls.any (r.isGrantedBy today) <;> rfl

/-- What comes of a request, given the licenses of each source that count: they are tried up
to the first by which the request is granted. -/
def resolution (lss : List (List License)) (sources : List Source) : Decision × List Source :=
  (⟨(lss.flatten.find? (r.isGrantedBy today)).map (·.key),
      (upTo (r.isGrantedBy today) lss.flatten).map (·.key)⟩,
    (sources.take (r.askedCount today lss)).map (·.pull.2) ++
      sources.drop (r.askedCount today lss))

theorem resolution_cons_of_none {ls : List License}
    (h : ∀ l ∈ ls, r.isGrantedBy today l = false) (lss : List (List License))
    (s : Source) (sources : List Source) :
  r.resolution today (ls :: lss) (s :: sources) =
    let (d, after) := r.resolution today lss sources
    (⟨d.grantedBy, ls.map (·.key) ++ d.evaluated⟩, s.pull.2 :: after)
  := by
  have hfind : ls.find? (r.isGrantedBy today) = none := by simpa using h
  have hany : ls.any (r.isGrantedBy today) = false := by simpa using h
  simp [resolution, askedCount_cons, hany, hfind, upTo_append h]

theorem resolution_cons_of_split {front rest : List License} {l : License}
    (hfront : ∀ m ∈ front, r.isGrantedBy today m = false) (hl : r.isGrantedBy today l = true)
    (lss : List (List License)) (s : Source) (sources : List Source) :
  r.resolution today ((front ++ l :: rest) :: lss) (s :: sources) =
    (⟨some l.key, front.map (·.key) ++ [l.key]⟩, s.pull.2 :: sources)
  := by
  have hfind : (front ++ l :: (rest ++ lss.flatten)).find? (r.isGrantedBy today) = some l :=
    List.find?_eq_some_iff_append.2 ⟨hl, front, _, rfl, by simpa using hfront⟩
  have hany : (front ++ l :: rest).any (r.isGrantedBy today) = true := by simp [hl]
  rw [resolution, askedCount_cons, hany, List.flatten_cons, List.append_assoc, List.cons_append,
    hfind, upTo_split hfront hl]
  simp

theorem decide_eq_resolution {seen earlier : List License} (h : Covers seen earlier)
    (sources : List Source) :
  r.decide today seen sources = r.resolution today (rounds earlier (yields sources)) sources
  := by
  induction sources generalizing seen earlier with
  | nil => rfl
  | cons s sources ih =>
    obtain ⟨heq, hcov⟩ := fresh_eq_unseen h s.pull.1
    have hrounds : rounds earlier (yields (s :: sources)) =
        preferred (fresh seen s.pull.1) :: rounds (earlier ++ s.pull.1) (yields sources) := by
      rw [heq, preferred_eq]
      rfl
    rw [hrounds]
    rcases none_or_split (r.isGrantedBy today) (preferred (fresh seen s.pull.1)) with
      hnone | ⟨front, l, rest, hls, hfront, hl⟩
    · rw [decide_cons_of_none r today hnone, resolution_cons_of_none r today hnone, ih hcov]
    · rw [decide_cons_of_split r today hls hfront hl, hls,
        resolution_cons_of_split r today hfront hl]

theorem evaluated_decide (sources : List Source) :
  (r.decide today [] sources).1.evaluated =
    (upTo (r.isGrantedBy today) (candidates sources)).map (·.key)
  := by
  rw [decide_eq_resolution r today covers_nil]
  rfl

theorem grantedBy_decide (sources : List Source) :
  (r.decide today [] sources).1.grantedBy =
    ((candidates sources).find? (r.isGrantedBy today)).map (·.key)
  := by
  rw [decide_eq_resolution r today covers_nil]
  rfl

/-- The sources that are asked are asked once, and the others are left as they are. -/
theorem sources_decide (sources : List Source) :
  (r.decide today [] sources).2 =
    sources.mapIdx fun i s =>
      if i < r.askedCount today (rounds [] (yields sources)) then s.pull.2 else s
  := by
  rw [decide_eq_resolution r today covers_nil, resolution]
  apply map_take_append_drop

/-- A source is asked once if it stands no later than the first with a license by which the
request is granted, and is left as it is otherwise. -/
theorem getElem?_sources_decide (sources : List Source) (i : Nat) :
  (r.decide today [] sources).2[i]? = sources[i]?.map fun s =>
    if i ≤ (rounds [] (yields sources)).findIdx fun ls => ls.any (r.isGrantedBy today)
    then s.pull.2 else s
  := by
  rw [sources_decide, List.getElem?_mapIdx, askedCount]
  simp only [Nat.lt_succ_iff]

/-- The resolution of a request. The licenses tried are the shortest front part of the
candidates that ends in a license by which the request is granted, and then that license is
the one named; or they are all candidates, and none is named. The sources up to the one of
the last license tried have been asked once and have given all their licenses, or all
sources have when the request is not granted; the others are as they were. -/
theorem decide_order (sources : List Source) :
  let d := (r.decide today [] sources).1
  let after := (r.decide today [] sources).2
  let k := (rounds [] (yields sources)).findIdx fun ls => ls.any (r.isGrantedBy today)
  (∃ tried, tried <+: candidates sources ∧ d.evaluated = tried.map (·.key) ∧
    (((∃ front l, tried = front ++ [l] ∧ r.isGrantedBy today l = true) ∧
        (∀ front l, front ++ [l] <+: candidates sources → r.isGrantedBy today l = true →
          tried.length ≤ (front ++ [l]).length) ∧
        d.isGranted = true ∧ d.grantedBy = d.evaluated.getLast?) ∨
      ((∀ l ∈ candidates sources, r.isGrantedBy today l = false) ∧
        tried = candidates sources ∧ d.isGranted = false ∧ d.grantedBy = none))) ∧
  after.length = sources.length ∧
  ∀ i s, sources[i]? = some s → ∃ s', after[i]? = some s' ∧
    (i ≤ k → s' = s.pull.2 ∧ s'.pulls = s.pulls + 1 ∧ s'.yielded = s.yielded + s.pull.1.length) ∧
    (k < i → s' = s)
  := by
  intro d after k
  have hevaluated : d.evaluated = _ := evaluated_decide r today sources
  have hgranted : d.grantedBy = _ := grantedBy_decide r today sources
  constructor
  · use upTo (r.isGrantedBy today) (candidates sources), upTo_isPrefix _ _, hevaluated
    rcases upTo_cases (r.isGrantedBy today) (candidates sources) with
      ⟨front, l, htried, hl, hfind⟩ | ⟨hnone, htried, hfind⟩
    · left
      have hby : d.grantedBy = some l.key := by
        rw [hgranted, hfind]
        rfl
      use ⟨front, l, htried, hl⟩, fun _ _ h h' => length_upTo_le h h'
      constructor
      · rw [Decision.isGranted, hby]
        rfl
      · rw [hevaluated, htried, hby]
        simp
    · right
      have hby : d.grantedBy = none := by
        rw [hgranted, hfind]
        rfl
      use hnone, htried
      constructor
      · rw [Decision.isGranted, hby]
        rfl
      · apply hby
  · constructor
    · have hafter : after = _ := sources_decide r today sources
      rw [hafter, List.length_mapIdx]
    · intro i s hs
      have hi := getElem?_sources_decide r today sources i
      rw [hs] at hi
      use if i ≤ k then s.pull.2 else s, hi
      constructor
      · intro hle
        rw [if_pos hle]
        exact ⟨rfl, rfl, rfl⟩
      · intro hlt
        rw [if_neg (Nat.not_le.2 hlt)]

end Entitlement.Request
