import Entitlement.Store.Files

/-!
# Retrying

A `RetryPolicy` has a number of attempts, of which there is at least one, and the time to wait
between them. `RetryPolicy.run` repeats an action while it fails with a transient error and
there are attempts left; the last outcome counts.

The attempts are numbered in 32 bits, from one on. The number is only increased while it is
below that of the last attempt (`RetryPolicy.next?`), so it does not overflow
(`RetryPolicy.toNat_next`), and the repetition ends.
-/

namespace Entitlement

/-- How often and how fast to try again. -/
structure RetryPolicy where
  attempts : UInt32 := 10
  /-- The milliseconds between two attempts. -/
  delay : UInt64 := 100
deriving DecidableEq

namespace RetryPolicy

/-- The number of attempts that are made at most. -/
def limit (p : RetryPolicy) : Nat := max p.attempts.toNat 1

/-- The number of the last attempt. -/
def last (p : RetryPolicy) : UInt32 := max p.attempts 1

/-- The number of the attempt after one that has failed, if another one is made. -/
def next? (p : RetryPolicy) (attempt : UInt32) (e : LicenseError) : Option UInt32 :=
  if e.isTransient ∧ attempt < p.last then some (attempt + 1) else none

theorem toNat_last (p : RetryPolicy) :
  p.last.toNat = p.limit
  := by
  change UInt32.toNat (if p.attempts ≤ 1 then 1 else p.attempts) =
    if p.attempts.toNat ≤ 1 then 1 else p.attempts.toNat
  apply apply_ite UInt32.toNat

variable {p : RetryPolicy} {attempt next : UInt32} {e : LicenseError}

theorem next?_eq_some_iff :
  p.next? attempt e = some next ↔
    (e.isTransient = true ∧ attempt.toNat < p.limit) ∧ attempt + 1 = next
  := by
  rw [next?, Option.ite_none_right_eq_some, Option.some_inj, UInt32.lt_iff_toNat_lt, toNat_last]

theorem next?_eq_none_iff :
  p.next? attempt e = none ↔ e.isTransient = false ∨ p.limit ≤ attempt.toNat
  := by
  rw [next?, ite_eq_right_iff, UInt32.lt_iff_toNat_lt, toNat_last]
  simp only [reduceCtorEq, imp_false, Classical.not_and_iff_not_or_not, Bool.not_eq_true,
    Nat.not_lt]

/-- Increasing the number of an attempt does not overflow. -/
theorem toNat_next (h : p.next? attempt e = some next) :
  next.toNat = attempt.toNat + 1
  := by
  obtain ⟨⟨-, hlimit⟩, rfl⟩ := next?_eq_some_iff.1 h
  have hlast := p.last.toNat_lt
  rw [toNat_last] at hlast
  rw [UInt32.toNat_add, UInt32.toNat_one]
  omega

end RetryPolicy

/-- The action at an attempt, and again at those after it while it fails. -/
def Action.retry {σ α : Type} (act : Action σ α) (p : RetryPolicy) (attempt : UInt32) :
    Action σ α :=
  tryCatch act fun e =>
    match _hnext : p.next? attempt e with
    | some next => act.retry p next
    | none => throw e
termination_by p.limit - attempt.toNat
decreasing_by
  have hnumber := RetryPolicy.toNat_next _hnext
  have hlimit := (RetryPolicy.next?_eq_some_iff.1 _hnext).1.2
  omega

/-- The action, repeated as the policy allows. -/
def RetryPolicy.run {σ α : Type} (p : RetryPolicy) (act : Action σ α) : Action σ α :=
  act.retry p 1

end Entitlement
