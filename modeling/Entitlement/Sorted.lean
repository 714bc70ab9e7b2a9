/-!
# Sorted association lists

A finite map is kept as the list of its pairs in strictly ascending order of keys, so that
two maps with the same content are equal. `Sorted.insert` puts a pair in its place, and
takes the place of the pair with the same key; `Sorted.find?` looks a key up;
`Sorted.erase` removes a key. All three are defined on any list; `Sorted.insert` and
`Sorted.erase` keep the order.
-/

namespace Entitlement.Sorted

variable {κ α : Type} [LT κ] [DecidableLT κ] [DecidableEq κ]

/-- The pairs with ascending keys, each key once. -/
def Ascending (ps : List (κ × α)) : Prop :=
  ps.Pairwise fun a b => a.1 < b.1

/-- The list with the pair in its place. -/
def insert (k : κ) (v : α) : List (κ × α) → List (κ × α)
  | [] => [(k, v)]
  | p :: ps =>
    if k < p.1 then (k, v) :: p :: ps
    else if k = p.1 then (k, v) :: ps
    else p :: insert k v ps

/-- The value of the first pair with the key. -/
def find? (k : κ) : List (κ × α) → Option α
  | [] => none
  | p :: ps => if k = p.1 then some p.2 else find? k ps

/-- The list without the pairs that have the key. -/
def erase (k : κ) (ps : List (κ × α)) : List (κ × α) :=
  ps.filter fun p => k ≠ p.1

theorem mem_insert {k : κ} {v : α} {ps : List (κ × α)} {q : κ × α} (h : q ∈ insert k v ps) :
  q = (k, v) ∨ q ∈ ps
  := by
  induction ps with
  | nil => simpa [insert] using h
  | cons p ps ih =>
    simp only [insert] at h
    split at h
    · simpa using h
    · split at h
      · rcases List.mem_cons.1 h with rfl | h
        · simp
        · simp [h]
      · rcases List.mem_cons.1 h with rfl | h
        · simp
        · rcases ih h with h | h <;> simp [h]

omit [DecidableLT κ] in
theorem Ascending.erase {k : κ} {ps : List (κ × α)} (h : Ascending ps) :
  Ascending (erase k ps)
  := h.filter _

omit [LT κ] [DecidableLT κ] in
theorem mem_of_mem_erase {k : κ} {ps : List (κ × α)} {q : κ × α} (h : q ∈ erase k ps) :
  q ∈ ps
  := (List.mem_filter.1 h).1

theorem Ascending.insert [Trans (α := κ) (· < ·) (· < ·) (· < ·)]
    {k : κ} {v : α} {ps : List (κ × α)} (total : ∀ a b : κ, a < b ∨ a = b ∨ b < a)
    (h : Ascending ps) :
  Ascending (insert k v ps)
  := by
  induction ps with
  | nil => simp [Sorted.insert, Ascending]
  | cons p ps ih =>
    obtain ⟨hp, hps⟩ := List.pairwise_cons.1 h
    simp only [Sorted.insert]
    split
    · rename_i hk
      apply List.pairwise_cons.2 ⟨_, h⟩
      intro q hq
      rcases List.mem_cons.1 hq with rfl | hq
      · exact hk
      · exact Trans.trans hk (hp q hq)
    · rename_i hk
      split
      · rename_i he
        subst he
        exact List.pairwise_cons.2 ⟨hp, hps⟩
      · rename_i he
        apply List.pairwise_cons.2 ⟨_, ih hps⟩
        intro q hq
        rcases mem_insert hq with rfl | hq
        · rcases total k p.1 with h | h | h
          · exact absurd h hk
          · exact absurd h he
          · exact h
        · exact hp q hq

/-- A pair whose key is after all others is put at the end. -/
theorem insert_of_forall_lt {k : κ} {v : α} {ps : List (κ × α)}
    (asymm : ∀ a b : κ, a < b → ¬ b < a) (h : ∀ p ∈ ps, p.1 < k) :
  insert k v ps = ps ++ [(k, v)]
  := by
  induction ps with
  | nil => rfl
  | cons p ps ih =>
    have hp := h p List.mem_cons_self
    have hne : k ≠ p.1 := by
      rintro rfl
      apply asymm p.1 p.1 hp hp
    rw [insert, if_neg (asymm p.1 k hp), if_neg hne,
      ih fun q hq => h q (List.mem_cons_of_mem p hq), List.cons_append]

/-- Pairs in ascending order that are inserted one after another stay in this order. -/
theorem foldl_insert {ps qs : List (κ × α)} (asymm : ∀ a b : κ, a < b → ¬ b < a)
    (h : Ascending (ps ++ qs)) :
  qs.foldl (fun ps q => insert q.1 q.2 ps) ps = ps ++ qs
  := by
  induction qs generalizing ps with
  | nil => rw [List.foldl_nil, List.append_nil]
  | cons q qs ih =>
    have hq : ∀ p ∈ ps, p.1 < q.1 := fun p hp =>
      (List.pairwise_append.1 h).2.2 p hp q List.mem_cons_self
    have hsplit : ps ++ q :: qs = (ps ++ [q]) ++ qs := by
      rw [List.append_assoc, List.singleton_append]
    rw [List.foldl_cons, insert_of_forall_lt asymm hq, hsplit]
    rw [hsplit] at h
    apply ih h

/-! ### Looking up -/

omit [LT κ] [DecidableLT κ] in
theorem mem_of_find? {k : κ} {v : α} {ps : List (κ × α)} (h : find? k ps = some v) :
  (k, v) ∈ ps
  := by
  induction ps with
  | nil => cases h
  | cons p ps ih =>
    rw [find?] at h
    split at h
    · rename_i hk
      cases h
      rw [hk]
      apply List.mem_cons_self
    · apply List.mem_cons_of_mem p (ih h)

omit [LT κ] [DecidableLT κ] in
theorem find?_eq_none_of_forall_ne {k : κ} {ps : List (κ × α)} (h : ∀ p ∈ ps, k ≠ p.1) :
  find? k ps = none
  := by
  induction ps with
  | nil => rfl
  | cons p ps ih =>
    rw [find?, if_neg (h p List.mem_cons_self), ih fun q hq => h q (List.mem_cons_of_mem p hq)]

theorem find?_insert (k k' : κ) (v : α) (ps : List (κ × α)) :
  find? k' (insert k v ps) = if k' = k then some v else find? k' ps
  := by
  induction ps with
  | nil => rfl
  | cons p ps ih =>
    rw [insert]
    split
    · rfl
    · split
      · rename_i hk
        rw [find?, find?, ← hk]
        split
        · rfl
        · rfl
      · rename_i hk
        rw [find?, find?, ih]
        split
        · rename_i hk'
          rw [if_neg fun h => hk (h.symm.trans hk')]
        · rfl

omit [LT κ] [DecidableLT κ] in
theorem find?_filter (k : κ) (q : κ → Bool) (ps : List (κ × α)) :
  find? k (ps.filter fun p => q p.1) = if q k then find? k ps else none
  := by
  induction ps with
  | nil => simp [find?]
  | cons p ps ih =>
    rw [List.filter_cons, find?]
    by_cases hk : k = p.1
    · rw [if_pos hk, ← hk]
      split
      · rw [find?, if_pos hk]
      · rename_i hq
        rw [ih, if_neg hq]
    · rw [if_neg hk]
      split
      · rw [find?, if_neg hk, ih]
      · rw [ih]

omit [LT κ] [DecidableLT κ] in
theorem find?_erase (k k' : κ) (ps : List (κ × α)) :
  find? k' (erase k ps) = if k' = k then none else find? k' ps
  := by
  rw [erase, find?_filter k' (fun k' => k ≠ k')]
  by_cases hk : k' = k
  · simp [hk]
  · simp [hk, Ne.symm hk]

omit [LT κ] [DecidableLT κ] in
theorem find?_map (k : κ) (f : α → α) (ps : List (κ × α)) :
  find? k (ps.map fun p => (p.1, f p.2)) = (find? k ps).map f
  := by
  induction ps with
  | nil => rfl
  | cons p ps ih =>
    rw [List.map_cons, find?, find?, ih]
    split
    · rfl
    · rfl

omit [LT κ] [DecidableLT κ] in
theorem find?_append (k : κ) (ps qs : List (κ × α)) :
  find? k (ps ++ qs) = (find? k ps).or (find? k qs)
  := by
  induction ps with
  | nil => rfl
  | cons p ps ih =>
    rw [List.cons_append, find?, find?, ih]
    split
    · rfl
    · rfl

omit [LT κ] [DecidableLT κ] in
/-- Where each key stands once, the order of the pairs does not matter. -/
theorem find?_perm {k : κ} {ps qs : List (κ × α)} (hnodup : (ps.map (·.1)).Nodup)
    (h : ps.Perm qs) :
  find? k ps = find? k qs
  := by
  induction h with
  | nil => rfl
  | cons p _ ih => rw [find?, find?, ih (List.nodup_cons.1 hnodup).2]
  | swap p q ps =>
    have hpq : p.1 ≠ q.1 := by
      intro hpq
      apply (List.nodup_cons.1 hnodup).1
      rw [List.map_cons, hpq]
      apply List.mem_cons_self
    simp only [find?]
    split
    · rename_i hq
      rw [if_neg fun hp => hpq (hp.symm.trans hq)]
    · rfl
  | trans h _ ih ih' => rw [ih hnodup, ih' ((h.map _).nodup_iff.1 hnodup)]

omit [DecidableLT κ] in
theorem Ascending.find?_of_mem {k : κ} {v : α} {ps : List (κ × α)}
    (irrefl : ∀ a : κ, ¬ a < a) (h : Ascending ps) (hv : (k, v) ∈ ps) :
  find? k ps = some v
  := by
  induction ps with
  | nil => cases hv
  | cons p ps ih =>
    obtain ⟨hp, hps⟩ := List.pairwise_cons.1 h
    rw [find?]
    rcases List.mem_cons.1 hv with rfl | hv
    · rw [if_pos rfl]
    · have hk : k ≠ p.1 := by
        intro hk
        apply irrefl k
        have := hp (k, v) hv
        rwa [← hk] at this
      rw [if_neg hk, ih hps hv]

omit [DecidableLT κ] in
theorem Ascending.find?_tail {p : κ × α} {ps : List (κ × α)} (irrefl : ∀ a : κ, ¬ a < a)
    (h : Ascending (p :: ps)) :
  find? p.1 ps = none
  := by
  apply find?_eq_none_of_forall_ne
  intro q hq hpq
  apply irrefl p.1
  have := (List.pairwise_cons.1 h).1 q hq
  rwa [← hpq] at this

omit [DecidableLT κ] in
/-- Lists with ascending keys are the same when they have the same values. -/
theorem Ascending.ext [Trans (α := κ) (· < ·) (· < ·) (· < ·)] {ps qs : List (κ × α)}
    (irrefl : ∀ a : κ, ¬ a < a) (hps : Ascending ps) (hqs : Ascending qs)
    (h : ∀ k, find? k ps = find? k qs) :
  ps = qs
  := by
  have head {p : κ × α} {ps qs : List (κ × α)} (h : ∀ k, find? k (p :: ps) = find? k qs) :
      p ∈ qs := by
    apply mem_of_find?
    rw [← h, find?, if_pos rfl]
  induction ps generalizing qs with
  | nil =>
    cases qs with
    | nil => rfl
    | cons q qs => cases head fun k => (h k).symm
  | cons p ps ih =>
    cases qs with
    | nil => cases head h
    | cons q qs =>
      obtain ⟨hp, hps'⟩ := List.pairwise_cons.1 hps
      obtain ⟨hq, hqs'⟩ := List.pairwise_cons.1 hqs
      have hpq : p = q := by
        rcases List.mem_cons.1 (head h) with hpq | hp'
        · exact hpq
        · rcases List.mem_cons.1 (head fun k => (h k).symm) with hqp | hq'
          · exact hqp.symm
          · exact absurd (Trans.trans (hp q hq') (hq p hp')) (irrefl p.1)
      subst hpq
      rw [ih hps' hqs']
      intro k
      by_cases hk : k = p.1
      · rw [hk, hps.find?_tail irrefl, hqs.find?_tail irrefl]
      · have := h k
        rwa [find?, find?, if_neg hk, if_neg hk] at this

omit [DecidableLT κ] in
/-- Only the pair that is found has its key. -/
theorem Ascending.filter_eq [Trans (α := κ) (· < ·) (· < ·) (· < ·)] {ps : List (κ × α)}
    (irrefl : ∀ a : κ, ¬ a < a) (h : Ascending ps) (k : κ) :
  ps.filter (fun p => p.1 = k) = (find? k ps).toList.map fun v => (k, v)
  := by
  have hfilter (j : κ) := find?_filter j (fun j => j = k) ps
  apply Ascending.ext irrefl
  · apply List.Pairwise.filter _ h
  · cases find? k ps with
    | none => apply List.Pairwise.nil
    | some v => apply List.pairwise_singleton
  · intro j
    rw [hfilter]
    by_cases hj : j = k
    · subst hj
      cases find? j ps <;> simp [find?]
    · cases find? k ps <;> simp [find?, hj]

end Entitlement.Sorted
