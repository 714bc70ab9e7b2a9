import Entitlement.Proofs.Store.Files

/-!
# Failures that pass

Files are disturbed if some of the operations on them fail in passing: the next time it may go
well, and no file changes. `Files.Disturbed` compares them with calm files in which the same
was written and in which nothing fails, and bounds how often they are disturbed. An action that
is begun in both ends alike, or it is disturbed once more and has changed nothing
(`Resumable`), and so it may be begun again: if it is tried more often than the files are
disturbed, it ends as in the calm files (`Resumable.steady_retry`). What is put together of
such programs is `Steady` itself, for what disturbs one of them no longer disturbs the others.
-/

namespace Entitlement

/-- The failure may be gone the next time, and puts nothing into a file. -/
structure Failure.IsPassing (a : Failure) : Prop where
  transient : a.kind.isTransient = true
  leaves : a.replacement = none

instance (a : Failure) : Decidable a.IsPassing :=
  decidable_of_iff (a.kind.isTransient = true ∧ a.replacement = none)
    ⟨fun h => ⟨h.1, h.2⟩, fun h => ⟨h.transient, h.leaves⟩⟩

namespace Files

/-! ### Disturbed files -/

/-- All that is to fail passes. -/
structure Passing (f : Files) : Prop where
  schedule : ∀ a, some a ∈ f.schedule → a.IsPassing
  faults : ∀ x ∈ f.faults, x.failure.IsPassing

/-- How often the faults are still to happen. -/
def pending : List Fault → Nat
  | [] => 0
  | x :: xs => x.count + pending xs

/-- The number of operations that are still to fail. -/
def failures (f : Files) : Nat := f.schedule.countP Option.isSome + pending f.faults

/-- The files have the same contents, and the same was written. -/
structure Agrees (f g : Files) : Prop where
  store : f.store = g.store
  record : f.record = g.record
  written : f.written = g.written

/-- The files are like calm ones, but up to a number of operations are to fail in passing. -/
structure Disturbed (n : Nat) (f g : Files) : Prop where
  passing : f.Passing
  failures : f.failures ≤ n
  calm : g.Calm
  agrees : f.Agrees g

variable {n : Nat} {f g h : Files}

@[refl]
theorem Agrees.refl (f : Files) :
  f.Agrees f
  := ⟨rfl, rfl, rfl⟩

theorem Agrees.trans (hfg : f.Agrees g) (hgh : g.Agrees h) :
  f.Agrees h
  := ⟨hfg.store.trans hgh.store, hfg.record.trans hgh.record, hfg.written.trans hgh.written⟩

theorem Agrees.contents (hfg : f.Agrees g) :
  f.contents = g.contents
  := by
  funext file
  cases file with
  | store => apply hfg.store
  | record => apply hfg.record

/-- Where nothing fails, drifting changes nothing. -/
theorem Calm.agrees_of_drift (hf : f.Calm) (hfg : f.Drift g) :
  g.Agrees f
  where
  store := hfg.contents .store (hf.leaves .store)
  record := hfg.contents .record (hf.leaves .record)
  written := hfg.written

theorem Calm.disturbed (hf : f.Calm) :
  f.Disturbed 0 f
  := by
  constructor
  · constructor
    · rw [hf.schedule]
      rintro _ ⟨⟩
    · rw [hf.faults]
      rintro _ ⟨⟩
  · rw [failures, hf.schedule, hf.faults]
    apply Nat.le_refl 0
  · apply hf
  · rfl

/-- The files as they are if nothing is to fail any more. -/
theorem Passing.disturbed (hf : f.Passing) :
  f.Disturbed f.failures { f with schedule := [], faults := [] }
  := ⟨hf, Nat.le_refl _, ⟨rfl, rfl⟩, ⟨rfl, rfl, rfl⟩⟩

theorem Disturbed.mono {m : Nat} (hfg : f.Disturbed m g) (hmn : m ≤ n) :
  f.Disturbed n g
  := ⟨hfg.passing, Nat.le_trans hfg.failures hmn, hfg.calm, hfg.agrees⟩

/-- Files that agree are disturbed alike. -/
theorem Disturbed.of_agrees (hfg : f.Disturbed n g) (hgh : g.Agrees h) (hh : h.Calm) :
  f.Disturbed n h
  := ⟨hfg.passing, hfg.failures, hh, hfg.agrees.trans hgh⟩

theorem Disturbed.reads (hfg : f.Disturbed n g) :
  Disturbed n { f with reads := f.reads + 1 } { g with reads := g.reads + 1 }
  where
  passing := ⟨hfg.passing.schedule, hfg.passing.faults⟩
  failures := hfg.failures
  calm := hfg.calm.reads _
  agrees := ⟨hfg.agrees.store, hfg.agrees.record, hfg.agrees.written⟩

theorem Disturbed.afterWrite (hfg : f.Disturbed n g) (file : FileName) (text : String) :
  (f.afterWrite file text).Disturbed n (g.afterWrite file text)
  := by
  have hwritten : (f.afterWrite file text).written = (g.afterWrite file text).written := by
    rw [Files.afterWrite, Files.afterWrite, hfg.agrees.contents, hfg.agrees.written]
  cases file with
  | store =>
    exact ⟨⟨hfg.passing.schedule, hfg.passing.faults⟩, hfg.failures,
      ⟨hfg.calm.schedule, hfg.calm.faults⟩, ⟨rfl, hfg.agrees.record, hwritten⟩⟩
  | record =>
    exact ⟨⟨hfg.passing.schedule, hfg.passing.faults⟩, hfg.failures,
      ⟨hfg.calm.schedule, hfg.calm.faults⟩, ⟨hfg.agrees.store, rfl, hwritten⟩⟩

/-! ### What fails next -/

theorem pending_strike (file : FileName) (operation : FileOperation) (xs : List Fault) :
  pending (strike file operation xs).2 + (strike file operation xs).1.isSome.toNat = pending xs
  := by
  induction xs with
  | nil => rfl
  | cons x xs ih =>
    rw [strike]
    split
    · rename_i hhits
      obtain ⟨-, hcount⟩ := Bool.and_eq_true_iff.1 hhits
      have hpositive : 0 < x.count := of_decide_eq_true hcount
      simp only [pending, Option.isSome_some, Bool.toNat_true]
      omega
    · simp only [pending, ← ih]
      omega

/-- An operation that fails is one of those that are to fail, and the others remain. -/
theorem failures_next (f : Files) (file : FileName) (operation : FileOperation) :
  (f.next file operation).2.failures + (f.next file operation).1.isSome.toNat = f.failures
  := by
  unfold next failures
  split
  · rename_i a as hcons
    rw [hcons]
    cases a with
    | none => rw [List.countP_cons_of_neg (by rintro ⟨⟩)]; rfl
    | some a =>
      rw [List.countP_cons_of_pos rfl]
      simp only [Option.isSome_some, Bool.toNat_true]
      omega
  · rw [← pending_strike file operation f.faults]
    apply Nat.add_assoc

theorem Passing.next (hf : f.Passing) (file : FileName) (operation : FileOperation) :
  (f.next file operation).2.Passing ∧ ∀ a, (f.next file operation).1 = some a → a.IsPassing
  := by
  have hnone (a : Failure) (ha : a.IsPassing) :
      Failure.IsPassing { a with replacement := none } := ⟨ha.transient, rfl⟩
  obtain ⟨hfailure, hschedule, hfaults⟩ := next_all file operation hnone hf.schedule hf.faults
  use ⟨hschedule, hfaults⟩, hfailure

/-! ### Actions that may be begun again -/

/-- The ways in which an action ends in disturbed files, if in the calm files `g` it ends with
`r` and the files `g'`. -/
inductive Attempted {α : Type} (r : Except LicenseError α) (g g' : Files) :
    Nat → Except LicenseError α → Files → Prop where
  /-- It ends with the same result, which is none that passes. -/
  | through {n : Nat} {f' : Files} (lasting : ∀ e, r = .error e → e.isTransient = false)
    (disturbed : f'.Disturbed n g') : Attempted r g g' n r f'
  /-- It fails in passing and has changed nothing. -/
  | failed {n : Nat} {e : LicenseError} {f' : Files} (transient : e.isTransient = true)
    (disturbed : f'.Disturbed n g) : Attempted r g g' (n + 1) (.error e) f'

/-- In disturbed files the action ends as in calm ones, or fails in passing and may be begun
again. -/
def Resumable {α : Type} (act : FileAction α) : Prop :=
  ∀ ⦃n f g r g' r' f'⦄, Disturbed n f g → act.Ends g r g' → act.Ends f r' f' →
    Attempted r g g' n r' f'

variable {α β : Type}

theorem resumable_pure (a : α) :
  Resumable (pure a)
  := by
  intro n f g r g' r' f' hfg hg hf
  obtain ⟨rfl, rfl⟩ := Action.ends_pure_iff.1 hg
  obtain ⟨rfl, rfl⟩ := Action.ends_pure_iff.1 hf
  apply Attempted.through _ hfg
  rintro _ ⟨⟩

theorem resumable_throw {e : LicenseError} (he : e.isTransient = false) :
  Resumable (throw e : FileAction α)
  := by
  intro n f g r g' r' f' hfg hg hf
  obtain ⟨rfl, rfl⟩ := Action.ends_throw_iff.1 hg
  obtain ⟨rfl, rfl⟩ := Action.ends_throw_iff.1 hf
  apply Attempted.through _ hfg
  rintro _ ⟨⟩
  apply he

theorem resumable_modify {change : Files → Files}
    (hchange : ∀ {n f g}, f.Disturbed n g → (change f).Disturbed n (change g)) :
  Resumable (modify change)
  := by
  rintro n f g _ _ _ _ hfg ⟨⟩ ⟨⟩
  apply Attempted.through _ (hchange hfg)
  rintro _ ⟨⟩

/-- What depends on the contents of the files only depends on the same in disturbed files. -/
theorem Resumable.get_bind {next : Files → FileAction α} (hnext : ∀ f, Resumable (next f))
    (hcontents : ∀ {f g : Files}, f.Agrees g → next f = next g) :
  Resumable (get >>= next)
  := by
  intro n f g r g' r' f' hfg hg hf
  rw [Action.ends_get_bind_iff] at hg hf
  rw [hcontents hfg.agrees] at hf
  apply hnext g hfg hg hf

/-- Of one action after another, the first one ends as it does alone, and what is to be shown
is that the second one brings nothing that cannot be begun again. -/
theorem Resumable.bind_of {act : FileAction α} {next : α → FileAction β} (hact : Resumable act)
    (hnext : ∀ {n a f g t r g' r' f'}, g.Calm → act.Ends g (.ok a) t → f.Disturbed n t →
      (next a).Ends t r g' → (next a).Ends f r' f' → Attempted r g g' n r' f') :
  Resumable (act >>= next)
  := by
  intro n f g r g' r' f' hfg hg hf
  rcases Action.ends_bind_iff.1 hg with ⟨a, t, hgt, hg'⟩ | ⟨e, hge, rfl⟩
  · rcases Action.ends_bind_iff.1 hf with ⟨a', s, hfs, hf'⟩ | ⟨e, hfe, rfl⟩
    · cases hact hfg hgt hfs with
      | through _ hst => apply hnext hfg.calm hgt hst hg' hf'
    · cases hact hfg hgt hfe with
      | failed transient disturbed => apply Attempted.failed transient disturbed
  · rcases Action.ends_bind_iff.1 hf with ⟨a', s, hfs, hf'⟩ | ⟨e', hfe, rfl⟩
    · cases hact hfg hge hfs
    · cases hact hfg hge hfe with
      | through lasting disturbed =>
        apply Attempted.through _ disturbed
        rintro _ ⟨⟩
        apply lasting e rfl
      | failed transient disturbed => apply Attempted.failed transient disturbed

/-- An action that writes nothing may be followed by any that may be begun again: if that one
fails in passing, still nothing has changed. -/
theorem Resumable.bind {act : FileAction α} {next : α → FileAction β} (hact : Resumable act)
    (hdrift : ∀ {g r g'}, act.Ends g r g' → g.Drift g') (hnext : ∀ a, Resumable (next a)) :
  Resumable (act >>= next)
  := by
  apply hact.bind_of
  intro n a f g t r g' r' f' hcalm hgt hft hg hf
  cases hnext a hft hg hf with
  | through lasting disturbed => apply Attempted.through lasting disturbed
  | failed transient disturbed =>
    apply Attempted.failed transient
    apply disturbed.of_agrees (hcalm.agrees_of_drift (hdrift hgt)) hcalm

/-- Any action may be followed by what does not fail. -/
theorem Resumable.bind_pure {act : FileAction α} (hact : Resumable act) (b : α → β) :
  Resumable (act >>= fun a => pure (b a))
  := by
  apply hact.bind_of
  intro n a f g t r g' r' f' _ _ hft hg hf
  obtain ⟨rfl, rfl⟩ := Action.ends_pure_iff.1 hg
  obtain ⟨rfl, rfl⟩ := Action.ends_pure_iff.1 hf
  apply Attempted.through _ hft
  rintro _ ⟨⟩

/-! ### Operations -/

theorem resumable_attempt (file : FileName) (operation : FileOperation) :
  Resumable (attempt file operation)
  := by
  intro n f g r g' r' f' hfg hg hf
  cases (hfg.calm.ends_attempt file operation).symm.trans hg
  obtain ⟨hpassing, hfailure⟩ := hfg.passing.next file operation
  have hfailures := f.failures_next file operation
  have hagrees : (f.next file operation).2.Agrees g := by
    obtain ⟨_, _, hnext⟩ := f.next_snd file operation
    rw [hnext]
    exact ⟨hfg.agrees.store, hfg.agrees.record, hfg.agrees.written⟩
  rw [attempt, Action.ends_get_bind_iff] at hf
  generalize f.next file operation = next at hf hpassing hfailure hfailures hagrees
  have hbound := hfg.failures
  rcases next with ⟨_ | a, t⟩
  · cases hf
    apply Attempted.through
    · rintro _ ⟨⟩
    · exact ⟨hpassing, Nat.le_trans (Nat.le_of_eq hfailures) hbound, hfg.calm, hagrees⟩
  · have hpasses := hfailure a rfl
    have hsame : t.afterFailure a = t := by
      rw [afterFailure, hpasses.leaves]
    obtain ⟨rfl, rfl⟩ := Action.ends_throw_iff.1 (Action.ends_set_bind_iff.1 hf)
    rw [hsame]
    change t.failures + 1 = f.failures at hfailures
    obtain ⟨m, rfl⟩ : ∃ m, n = m + 1 := Nat.exists_eq_add_one.2 (by omega)
    apply Attempted.failed
    · apply hpasses.transient
    · exact ⟨hpassing, by omega, hfg.calm, hagrees⟩

theorem resumable_read (file : FileName) :
  Resumable (read file)
  := by
  unfold read
  apply Resumable.bind
  · apply resumable_modify
    apply Disturbed.reads
  · rintro g _ _ ⟨⟩
    apply drift_reads
  · rintro ⟨⟩
    apply (resumable_attempt file .read).bind fun h => (ends_attempt h).1
    rintro ⟨⟩
    apply Resumable.get_bind
    · intro f
      split
      · apply resumable_pure
      · apply resumable_throw
        rfl
    · intro f g hfg
      rw [hfg.contents]

theorem resumable_replace (file : FileName) (text : String) :
  Resumable (makeFolder >>= fun _ => write file text)
  := by
  apply (resumable_attempt .store .makeFolder).bind fun h => (ends_attempt h).1
  rintro ⟨⟩
  apply (resumable_attempt file .write).bind fun h => (ends_attempt h).1
  rintro ⟨⟩
  apply resumable_modify
  intro n f g hfg
  apply hfg.afterWrite

/-! ### Trying often enough -/

/-- A program that comes to the same in files that are disturbed up to a number of times as in
calm ones. -/
def Steady (n : Nat) (x : StateM Files α) : Prop :=
  ∀ ⦃f g : Files⦄, f.Disturbed n g →
    (x.run f).1 = (x.run g).1 ∧ (x.run f).2.Disturbed n (x.run g).2

theorem steady_pure (a : α) :
  Steady n (pure a)
  := fun _ _ hfg => ⟨rfl, hfg⟩

theorem Steady.bind {x : StateM Files α} {next : α → StateM Files β} (hx : Steady n x)
    (hnext : ∀ a, Steady n (next a)) :
  Steady n (x >>= next)
  := by
  intro f g hfg
  obtain ⟨hresult, hdisturbed⟩ := hx hfg
  have hrun (s : Files) : (x >>= next).run s = (next (x.run s).1).run (x.run s).2 := rfl
  rw [hrun, hrun, ← hresult]
  apply hnext _ hdisturbed

theorem Steady.get_bind {next : Files → StateM Files α} (hnext : ∀ f, Steady n (next f))
    (hcontents : ∀ {f g : Files}, f.Agrees g → next f = next g) :
  Steady n (get >>= next)
  := by
  intro f g hfg
  have hrun (s : Files) : (get >>= next).run s = (next s).run s := rfl
  rw [hrun, hrun, hcontents hfg.agrees]
  apply hnext g hfg

/-- The action is tried more often than the files are disturbed, so that one time it goes
through. -/
theorem Resumable.ends_retry {act : FileAction α} {r : Except LicenseError α} {g' : Files}
    {p : RetryPolicy} {attempt : UInt32} (hact : Resumable act) (hfg : f.Disturbed n g)
    (hg : act.Ends g r g') (hn : attempt.toNat + n ≤ p.limit) :
  ∃ f', (act.retry p attempt).Ends f r f' ∧ f'.Disturbed n g'
  := by
  induction n generalizing f attempt with
  | zero =>
    rcases hf : act.run.run f with ⟨r', f'⟩
    cases hact hfg hg hf with
    | through lasting disturbed => exact ⟨f', Action.retry_ends hf lasting p, disturbed⟩
  | succ n ih =>
    rcases hf : act.run.run f with ⟨r', f'⟩
    cases hact hfg hg hf with
    | through lasting disturbed => exact ⟨f', Action.retry_ends hf lasting p, disturbed⟩
    | @failed _ e _ transient disturbed =>
      -- one attempt less, but also one failure less
      have hnext : p.next? attempt e = some (attempt + 1) :=
        RetryPolicy.next?_eq_some_iff.2 ⟨⟨transient, by omega⟩, rfl⟩
      have hnumber := RetryPolicy.toNat_next hnext
      have hrest : (attempt + 1).toNat + n ≤ p.limit := by omega
      obtain ⟨f'', hends, hdisturbed⟩ := ih disturbed hrest
      use f''
      constructor
      · apply Action.ends_retry_iff.2
        right
        use e, f', attempt + 1, hf
      · apply hdisturbed.mono n.le_succ

theorem Resumable.steady_retry {act : FileAction α} (hact : Resumable act) (p : RetryPolicy) :
  Steady (p.limit - 1) (p.run act).run
  := by
  intro f g hfg
  rcases hg : act.run.run g with ⟨r, g'⟩
  have hlimit : (1 : UInt32).toNat + (p.limit - 1) ≤ p.limit := by
    rw [UInt32.toNat_one, RetryPolicy.limit]
    omega
  obtain ⟨f', hends, hdisturbed⟩ := hact.ends_retry hfg hg hlimit
  have hrun : (p.run act).Ends f r f' := hends
  have hcalm : (p.run act).Ends g r g' := by
    -- calm files are those that are disturbed no more than 0 times
    cases hact hfg.calm.disturbed hg hg with
    | through lasting _ => apply Action.retry_ends hg lasting
  rw [hrun, hcalm]
  use rfl

theorem Steady.run_bind {act : FileAction α} {next : α → FileAction β} (hact : Steady n act.run)
    (hnext : ∀ a, Steady n (next a).run) :
  Steady n (act >>= next).run
  := by
  rw [ExceptT.run_bind]
  apply hact.bind
  rintro (e | a)
  · apply steady_pure
  · apply hnext

theorem Steady.run_state_bind {x : StateM Files α} {next : α → FileAction β} (hx : Steady n x)
    (hnext : ∀ a, Steady n (next a).run) :
  Steady n ((monadLift x : FileAction α) >>= next).run
  := hx.bind hnext

theorem Steady.run_except_bind {x : Except LicenseError α} {next : α → FileAction β}
    (hnext : ∀ a, Steady n (next a).run) :
  Steady n ((monadLift x : FileAction α) >>= next).run
  := by
  cases x with
  | error e => apply steady_pure
  | ok a => apply hnext

end Files

/-! ### The store -/

theorem Configuration.resumable_load :
  Files.Resumable load
  := by
  unfold load
  apply Files.Resumable.get_bind
  · intro f
    split
    · apply Files.resumable_pure
    · apply (Files.resumable_read .store).bind fun h => (Files.ends_read h).1
      intro text
      split
      · apply Files.resumable_pure
      · apply Files.resumable_throw
        rfl
  · intro f g hfg
    rw [hfg.store]

end Entitlement
