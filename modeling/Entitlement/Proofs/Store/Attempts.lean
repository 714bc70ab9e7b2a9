import Entitlement.Proofs.Store.Files
import Mathlib.Data.ENat.Lattice

/-!
# How often an action is tried

An action that is called over and over takes its state from one to the next (`Action.after`),
and each call has an outcome (`Action.outcome`). An outcome is final if it is a success or an
error that does not pass.

* A run under a policy makes the calls up to the first one whose outcome is final, or as many
  as the policy allows if that is less (`RetryPolicy.IsLast`), and ends with the outcome of the
  last call (`RetryPolicy.IsLast.ends_run`).
* The attempts that a run comes to (`RetryPolicy.Reaches`) are these calls, and the number of
  each is that of the call: counting them in 32 bits does not overflow
  (`RetryPolicy.IsLast.reaches_iff`).

Where nothing but the outcomes is given, the calls can be counted in the state
(`RetryPolicy.run_ofOutcomes`).
-/

namespace Entitlement

variable {σ α : Type}

namespace Action

/-! ### Calls -/

/-- The state after a number of calls of an action, whatever their outcomes. -/
def after (act : Action σ α) (s : σ) : ℕ → σ
  | 0 => s
  | k + 1 => (act.run.run (act.after s k)).2

/-- The outcome of the call that follows a number of calls. -/
def outcome (act : Action σ α) (s : σ) (k : ℕ) : Except LicenseError α :=
  (act.run.run (act.after s k)).1

theorem ends_outcome (act : Action σ α) (s : σ) (k : ℕ) :
  act.Ends (act.after s k) (act.outcome s k) (act.after s (k + 1))
  := rfl

theorem not_isFinal_iff {r : Except LicenseError α} :
  ¬ IsFinal r ↔ ∃ e, r = .error e ∧ e.isTransient = true
  := by
  simp only [IsFinal, not_forall, Bool.not_eq_false, exists_prop]

/-- The position of the first final outcome, counted from one; infinite if there is none. -/
noncomputable def firstFinal (outcomes : ℕ → Except LicenseError α) : ℕ∞ :=
  ⨅ k ∈ {k | IsFinal (outcomes k)}, ((k + 1 : ℕ) : ℕ∞)

end Action

namespace RetryPolicy

variable {p : RetryPolicy} {act : Action σ α} {s t : σ} {attempt : UInt32} {n : ℕ}

/-! ### The last call -/

/-- The call that follows `n` others is the last one that is made. -/
structure IsLast (p : RetryPolicy) (outcomes : ℕ → Except LicenseError α) (n : ℕ) : Prop where
  goesOn : ∀ k < n, ¬ Action.IsFinal (outcomes k)
  lt_limit : n < p.limit
  stops : Action.IsFinal (outcomes n) ∨ n + 1 = p.limit

theorem exists_isLast (p : RetryPolicy) (outcomes : ℕ → Except LicenseError α) :
  ∃ n, p.IsLast outcomes n
  := by
  classical
  have hpositive : 0 < p.limit := Nat.le_max_right _ _
  have hstops : ∃ n, Action.IsFinal (outcomes n) ∨ n + 1 = p.limit := by
    use p.limit - 1
    right
    omega
  use Nat.find hstops
  constructor
  · intro k hk hfinal
    apply Nat.find_min hstops hk
    left
    apply hfinal
  · have hle : Nat.find hstops ≤ p.limit - 1 := by
      apply Nat.find_min' hstops
      right
      omega
    omega
  · apply Nat.find_spec hstops

/-- The number of calls is the smaller one of the limit and the position of the first final
outcome. -/
theorem IsLast.calls_eq {outcomes : ℕ → Except LicenseError α} (h : p.IsLast outcomes n) :
  ((n + 1 : ℕ) : ℕ∞) = min (p.limit : ℕ∞) (Action.firstFinal outcomes)
  := by
  apply le_antisymm
  · apply le_min
    · exact_mod_cast h.lt_limit
    · apply le_iInf₂
      intro k hk
      have hle : n ≤ k := not_lt.1 fun hlt => h.goesOn k hlt hk
      exact_mod_cast Nat.succ_le_succ hle
  · rcases h.stops with hfinal | hlimit
    · apply min_le_of_right_le
      apply iInf₂_le n hfinal
    · apply min_le_of_left_le
      rw [hlimit]

/-! ### Attempts that a run comes to -/

/-- A run of the action from `s` on comes to the attempt with some number, in some state. -/
inductive Reaches (p : RetryPolicy) (act : Action σ α) (s : σ) : UInt32 → σ → Prop
  /-- Every run begins with attempt one. -/
  | first : Reaches p act s 1 s
  /-- An attempt has failed and is followed by another one. -/
  | next {attempt number : UInt32} {t t' : σ} {e : LicenseError}
      (h : Reaches p act s attempt t) (hfail : act.Ends t (.error e) t')
      (hnext : p.next? attempt e = some number) : Reaches p act s number t'

/-- From an attempt that it comes to, the run goes on as from there. -/
theorem Reaches.ends_run_iff {r : Except LicenseError α} {s' : σ}
    (h : p.Reaches act s attempt t) :
  (p.run act).Ends s r s' ↔ (act.retry p attempt).Ends t r s'
  := by
  induction h with
  | first => exact Iff.rfl
  | @next attempt number t t' e _ hfail hnext ih =>
    rw [ih, Action.ends_retry_iff]
    constructor
    · rintro (⟨hdone, hlast⟩ | ⟨e', u, number', hfail', hnext', hrest⟩)
      · cases hfail.symm.trans hdone
        cases hnext.symm.trans (hlast e rfl)
      · cases hfail.symm.trans hfail'
        cases hnext.symm.trans hnext'
        apply hrest
    · intro hrest
      right
      use e, t', number

/-- A run comes to every call up to the last one. -/
theorem IsLast.exists_reaches (h : p.IsLast (act.outcome s) n) {k : ℕ} (hk : k ≤ n) :
  ∃ attempt, attempt.toNat = k + 1 ∧ p.Reaches act s attempt (act.after s k)
  := by
  induction k with
  | zero => exact ⟨1, rfl, .first⟩
  | succ k ih =>
    obtain ⟨attempt, hattempt, hreaches⟩ := ih (Nat.le_of_succ_le hk)
    obtain ⟨e, he, htransient⟩ := Action.not_isFinal_iff.1 (h.goesOn k hk)
    have hlimit := h.lt_limit
    have hnext : p.next? attempt e = some (attempt + 1) :=
      next?_eq_some_iff.2 ⟨⟨htransient, by omega⟩, rfl⟩
    use attempt + 1
    constructor
    · rw [toNat_next hnext, hattempt]
    · apply hreaches.next _ hnext
      rw [← he]
      apply act.ends_outcome s k

/-- A run comes to nothing else. -/
theorem IsLast.of_reaches (h : p.IsLast (act.outcome s) n) (hreaches : p.Reaches act s attempt t) :
  ∃ k ≤ n, attempt.toNat = k + 1 ∧ t = act.after s k
  := by
  induction hreaches with
  | first => exact ⟨0, n.zero_le, rfl, rfl⟩
  | @next attempt number _ t' e _ hfail hnext ih =>
    obtain ⟨k, hk, hattempt, rfl⟩ := ih
    obtain ⟨he, rfl⟩ := Prod.mk.inj ((act.ends_outcome s k).symm.trans hfail)
    obtain ⟨⟨htransient, hlimit⟩, -⟩ := next?_eq_some_iff.1 hnext
    have hne : k ≠ n := by
      -- after the last call no attempt follows: it is no use, or none is left
      rintro rfl
      rcases h.stops with hfinal | hlast
      · cases htransient.symm.trans (hfinal e he)
      · omega
    refine ⟨k + 1, by omega, ?_, rfl⟩
    rw [toNat_next hnext, hattempt]

/-- The attempts that a run comes to are the calls up to the last one, in order. -/
theorem IsLast.reaches_iff (h : p.IsLast (act.outcome s) n) :
  p.Reaches act s attempt t ↔ ∃ k ≤ n, attempt.toNat = k + 1 ∧ t = act.after s k
  := by
  constructor
  · apply h.of_reaches
  · rintro ⟨k, hk, hattempt, rfl⟩
    obtain ⟨attempt', hattempt', hreaches⟩ := h.exists_reaches hk
    obtain rfl : attempt' = attempt := UInt32.toNat_inj.1 (hattempt'.trans hattempt.symm)
    apply hreaches

/-- A run ends as its last call does. -/
theorem IsLast.ends_run (h : p.IsLast (act.outcome s) n) :
  (p.run act).Ends s (act.outcome s n) (act.after s (n + 1))
  := by
  obtain ⟨attempt, hattempt, hreaches⟩ := h.exists_reaches (le_refl n)
  apply hreaches.ends_run_iff.2
  apply Action.ends_retry_iff.2
  left
  use act.ends_outcome s n
  intro e he
  apply next?_eq_none_iff.2
  rcases h.stops with hfinal | hlimit
  · left
    apply hfinal e he
  · right
    omega

end RetryPolicy

/-! ### Outcomes that are given -/

namespace Action

/-- The action whose outcomes are given, and which counts its calls. -/
def ofOutcomes (outcomes : ℕ → Except LicenseError α) : Action ℕ α :=
  ExceptT.mk fun k => (outcomes k, k + 1)

theorem after_ofOutcomes (outcomes : ℕ → Except LicenseError α) (k : ℕ) :
  (ofOutcomes outcomes).after 0 k = k
  := by
  induction k with
  | zero => rfl
  | succ k ih => exact congrArg Nat.succ ih

theorem outcome_ofOutcomes (outcomes : ℕ → Except LicenseError α) :
  (ofOutcomes outcomes).outcome 0 = outcomes
  := by
  funext k
  exact congrArg outcomes (after_ofOutcomes outcomes k)

end Action

/-- The number of calls is the smaller one of the attempts that the policy allows, of which
there is at least one, and the position of the first outcome that is final. The run ends with
the outcome of the last call, and no outcome before it is final. The attempts that it comes to
are these calls, each with the number of its call, which therefore never overflows. -/
theorem RetryPolicy.run_ofOutcomes (p : RetryPolicy) (outcomes : ℕ → Except LicenseError α) :
  ∃ n : ℕ,
    ((n + 1 : ℕ) : ℕ∞) = min ((max p.attempts.toNat 1 : ℕ) : ℕ∞) (Action.firstFinal outcomes) ∧
      (p.run (.ofOutcomes outcomes)).Ends 0 (outcomes n) (n + 1) ∧
      (∀ k < n, ¬ Action.IsFinal (outcomes k)) ∧
      ∀ (attempt : UInt32) (k : ℕ),
        p.Reaches (.ofOutcomes outcomes) 0 attempt k ↔ k ≤ n ∧ attempt.toNat = k + 1
  := by
  obtain ⟨n, hn⟩ := p.exists_isLast outcomes
  have hlast : p.IsLast ((Action.ofOutcomes outcomes).outcome 0) n := by
    rw [Action.outcome_ofOutcomes]
    apply hn
  use n, hn.calls_eq
  constructor
  · have hends := hlast.ends_run
    rw [Action.outcome_ofOutcomes, Action.after_ofOutcomes] at hends
    apply hends
  · use hn.goesOn
    intro attempt k
    rw [hlast.reaches_iff]
    simp only [Action.after_ofOutcomes]
    constructor
    · rintro ⟨_, hk, hattempt, rfl⟩
      use hk, hattempt
    · rintro ⟨hk, hattempt⟩
      use k, hk, hattempt

/-- A file that is busy twice is free at the third of four attempts. -/
example : (RetryPolicy.run ⟨4, 100⟩ (.ofOutcomes fun k =>
    if k < 2 then .error (.busy "busy") else .ok "text")).Ends 0 (.ok "text") 3
  := by cbv

end Entitlement
