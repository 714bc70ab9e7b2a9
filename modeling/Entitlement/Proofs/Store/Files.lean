import Entitlement.Store.Configuration
import Entitlement.Store.Retry
import Mathlib.Tactic.Use

/-!
# What happens to files

`Action.Ends` says how an action ends, and the files only change on the way in two manners.
They drift while they are read and while operations fail (`Files.Drift`): nothing is written
then, and a file can only be changed by a failure that puts other contents into it. And they
are written, which the list of writings shows (`Files.afterWrite`). Each operation has one
lemma that says which of the two it does. An action that leaves the files drifting when it
fails may be retried: how it ends in the end is how it ends once, after a drift
(`Action.ends_retry`).
-/

namespace Entitlement

/-! ### Runs of actions -/

namespace Action

variable {σ α β : Type}

/-- The action, begun in a state, ends with a result and in a state. -/
def Ends (act : Action σ α) (s : σ) (r : Except LicenseError α) (s' : σ) : Prop :=
  act.run.run s = (r, s')

variable {act : Action σ α} {s s' : σ} {r : Except LicenseError β}

theorem ends_pure_iff {b : β} :
  (pure b : Action σ β).Ends s r s' ↔ r = .ok b ∧ s' = s
  := by
  rw [eq_comm, eq_comm (a := s')]
  apply Prod.ext_iff

theorem ends_throw_iff {e : LicenseError} :
  (throw e : Action σ β).Ends s r s' ↔ r = .error e ∧ s' = s
  := by
  rw [eq_comm, eq_comm (a := s')]
  apply Prod.ext_iff

/-- What follows another action runs when that one has succeeded. -/
theorem ends_bind_iff {next : α → Action σ β} :
  (act >>= next).Ends s r s' ↔
    (∃ a t, act.Ends s (.ok a) t ∧ (next a).Ends t r s') ∨
      ∃ e, act.Ends s (.error e) s' ∧ r = .error e
  := by
  unfold Ends
  rw [ExceptT.run_bind, StateT.run_bind]
  rcases act.run.run s with ⟨a | a, t⟩
  · change (Except.error a, t) = (r, s') ↔ _
    constructor
    · rintro ⟨⟩
      right
      use a
    · rintro (⟨_, _, ⟨⟩, _⟩ | ⟨_, ⟨⟩, rfl⟩)
      rfl
  · change (next a).run.run t = (r, s') ↔ _
    constructor
    · intro h
      left
      use a, t
    · rintro (⟨_, _, ⟨⟩, h⟩ | ⟨_, ⟨⟩, _⟩)
      apply h

theorem ends_get_bind_iff {next : σ → Action σ β} :
  (get >>= next).Ends s r s' ↔ (next s).Ends s r s'
  := Iff.rfl

theorem ends_set_bind_iff {t : σ} {next : PUnit → Action σ β} :
  (set t >>= next).Ends s r s' ↔ (next ⟨⟩).Ends t r s'
  := Iff.rfl

theorem ends_modify_bind_iff {f : σ → σ} {next : PUnit → Action σ β} :
  (modify f >>= next).Ends s r s' ↔ (next ⟨⟩).Ends (f s) r s'
  := Iff.rfl

theorem ends_state_bind_iff {x : StateM σ α} {next : α → Action σ β} :
  ((monadLift x : Action σ α) >>= next).Ends s r s' ↔
    (next (x.run s).1).Ends (x.run s).2 r s'
  := Iff.rfl

theorem ends_except_bind_iff {x : Except LicenseError α} {next : α → Action σ β} :
  ((monadLift x : Action σ α) >>= next).Ends s r s' ↔
    (∃ a, x = .ok a ∧ (next a).Ends s r s') ∨ ∃ e, x = .error e ∧ r = .error e ∧ s' = s
  := by
  cases x with
  | error e =>
    constructor
    · rintro ⟨⟩
      right
      use e
    · rintro (⟨_, ⟨⟩, _⟩ | ⟨_, ⟨⟩, rfl, rfl⟩)
      rfl
  | ok a =>
    constructor
    · intro h
      left
      use a, rfl, h
    · rintro (⟨_, ⟨⟩, h⟩ | ⟨_, ⟨⟩, _⟩)
      apply h

theorem ends_tryCatch_iff {act : Action σ β} {handle : LicenseError → Action σ β} :
  (tryCatch act handle).Ends s r s' ↔
    (act.Ends s r s' ∧ r.isOk = true) ∨ ∃ e t, act.Ends s (.error e) t ∧ (handle e).Ends t r s'
  := by
  unfold Ends
  rw [ExceptT.run_tryCatch, StateT.run_bind]
  rcases act.run.run s with ⟨a | a, t⟩
  · change (handle a).run.run t = (r, s') ↔ _
    constructor
    · intro h
      right
      use a, t
    · rintro (⟨⟨⟩, h⟩ | ⟨_, _, ⟨⟩, h⟩)
      · cases h
      · apply h
  · change (Except.ok a, t) = (r, s') ↔ _
    constructor
    · rintro ⟨⟩
      left
      use rfl
      rfl
    · rintro (⟨h, _⟩ | ⟨_, _, ⟨⟩, _⟩)
      apply h

end Action

/-! ### Drifting -/

/-- The failure puts nothing into the file. -/
def Failure.Leaves (a : Failure) (file : FileName) : Prop :=
  ∀ x, a.replacement = some x → x.1 ≠ file

namespace Files

/-- Nothing that is to fail puts anything into the file. -/
structure Leaves (f : Files) (file : FileName) : Prop where
  schedule : ∀ a, some a ∈ f.schedule → a.Leaves file
  faults : ∀ a ∈ f.faults, a.failure.Leaves file

/-- What may happen to files while nothing is written. -/
structure Drift (f g : Files) : Prop where
  written : g.written = f.written
  leaves : ∀ file, f.Leaves file → g.Leaves file
  contents : ∀ file, f.Leaves file → g.contents file = f.contents file

namespace Drift

variable {f g h : Files}

@[refl]
theorem refl (f : Files) :
  f.Drift f
  where
  written := rfl
  leaves _ hf := hf
  contents _ _ := rfl

theorem trans (hfg : f.Drift g) (hgh : g.Drift h) :
  f.Drift h
  where
  written := by
    rw [hgh.written, hfg.written]
  leaves file hf := by
    apply hgh.leaves file (hfg.leaves file hf)
  contents file hf := by
    rw [hgh.contents file (hfg.leaves file hf), hfg.contents file hf]

end Drift

/-- What holds of what the faults make of operations, whether or not it puts something into a
file, holds of what they make of one operation and of those after it. -/
theorem strike_all {P : Failure → Prop} {file : FileName} {operation : FileOperation}
    {xs : List Fault} (hP : ∀ a, P a → P { a with replacement := none })
    (h : ∀ x ∈ xs, P x.failure) :
  (∀ a, (strike file operation xs).1 = some a → P a) ∧
    ∀ x ∈ (strike file operation xs).2, P x.failure
  := by
  induction xs with
  | nil =>
    constructor
    · rintro _ ⟨⟩
    · rintro _ ⟨⟩
  | cons x xs ih =>
    have hx := h x List.mem_cons_self
    have hxs := ih fun y hy => h y (List.mem_cons_of_mem x hy)
    rw [strike]
    split
    · constructor
      · rintro _ ⟨⟩
        apply hx
      · intro y hy
        rcases List.mem_cons.1 hy with rfl | hy
        · apply hP _ hx
        · apply h y (List.mem_cons_of_mem x hy)
    · constructor
      · apply hxs.1
      · intro y hy
        rcases List.mem_cons.1 hy with rfl | hy
        · apply hx
        · apply hxs.2 y hy

/-- So do those in the schedule. -/
theorem next_all {P : Failure → Prop} {f : Files} (file : FileName) (operation : FileOperation)
    (hP : ∀ a, P a → P { a with replacement := none }) (hschedule : ∀ a, some a ∈ f.schedule → P a)
    (hfaults : ∀ x ∈ f.faults, P x.failure) :
  (∀ a, (f.next file operation).1 = some a → P a) ∧
    (∀ a, some a ∈ (f.next file operation).2.schedule → P a) ∧
    ∀ x ∈ (f.next file operation).2.faults, P x.failure
  := by
  unfold next
  split
  · rename_i a as hcons
    rw [hcons] at hschedule
    constructor
    · rintro b rfl
      apply hschedule b List.mem_cons_self
    · use fun b hb => hschedule b (List.mem_cons_of_mem a hb)
  · obtain ⟨hfailure, hrest⟩ := strike_all hP hfaults
    use hfailure, hschedule

/-- Looking at what is to fail next changes no file. -/
theorem next_snd (f : Files) (file : FileName) (operation : FileOperation) :
  ∃ schedule faults, (f.next file operation).2 = { f with schedule, faults }
  := by
  unfold next
  split
  · exact ⟨_, _, rfl⟩
  · exact ⟨_, _, rfl⟩

theorem drift_next (f : Files) (file : FileName) (operation : FileOperation) :
  f.Drift (f.next file operation).2 ∧ (f.next file operation).2.contents = f.contents ∧
    ∀ file', f.Leaves file' → ∀ a, (f.next file operation).1 = some a → a.Leaves file'
  := by
  have hnone {file' : FileName} (a : Failure) (_ : a.Leaves file') :
      Failure.Leaves { a with replacement := none } file' := by
    rintro _ ⟨⟩
  have hcontents : (f.next file operation).2.contents = f.contents := by
    obtain ⟨_, _, hnext⟩ := f.next_snd file operation
    rw [hnext]
    funext file'
    cases file' <;> rfl
  constructor
  · constructor
    · obtain ⟨_, _, hnext⟩ := f.next_snd file operation
      rw [hnext]
    · intro file' hf
      obtain ⟨-, hschedule, hfaults⟩ := next_all file operation hnone hf.schedule hf.faults
      use hschedule, hfaults
    · intro file' _
      rw [hcontents]
  · use hcontents
    intro file' hf
    apply (next_all file operation hnone hf.schedule hf.faults).1

theorem Drift.afterFailure {f g : Files} {a : Failure} (h : f.Drift g)
    (ha : ∀ file, f.Leaves file → a.Leaves file) :
  f.Drift (g.afterFailure a)
  := by
  unfold Files.afterFailure
  split
  · apply h
  · rename_i name text hreplacement
    constructor
    · rw [← h.written]
      cases name <;> rfl
    · intro file hf
      have hg := h.leaves file hf
      cases name <;> use hg.schedule, hg.faults
    · intro file hf
      have hname := ha file hf (name, text) hreplacement
      rw [← h.contents file hf]
      cases name <;> cases file
      · cases hname rfl
      · rfl
      · rfl
      · cases hname rfl

/-! ### Reading -/

/-- Counting the attempts to read changes no file. -/
theorem contents_reads (f : Files) (n : Nat) :
  contents { f with reads := n } = f.contents
  := by
  funext file
  cases file <;> rfl

theorem drift_reads (f : Files) (n : Nat) :
  f.Drift { f with reads := n }
  := by
  constructor
  · rfl
  · intro file hf
    use hf.schedule, hf.faults
  · intro file _
    rw [contents_reads]

/-- How an operation ends. -/
theorem ends_attempt {file : FileName} {operation : FileOperation} {f f' : Files}
    {r : Except LicenseError Unit} (h : (attempt file operation).Ends f r f') :
  f.Drift f' ∧ ((∃ e, r = .error (.io e)) ∨ r = .ok () ∧ f'.contents = f.contents)
  := by
  obtain ⟨hdrift, hcontents, hfailure⟩ := drift_next f file operation
  rw [attempt, Action.ends_get_bind_iff] at h
  generalize f.next file operation = next at h hdrift hcontents hfailure
  rcases next with ⟨_ | a, g⟩
  · cases h
    use hdrift
    right
    use rfl
  · obtain ⟨rfl, rfl⟩ := Action.ends_throw_iff.1 (Action.ends_set_bind_iff.1 h)
    constructor
    · apply hdrift.afterFailure
      intro file' hf
      apply hfailure file' hf a rfl
    · left
      exact ⟨_, rfl⟩

/-- How the reading of a file ends. -/
theorem ends_read {file : FileName} {f f' : Files} {r : Except LicenseError String}
    (h : (read file).Ends f r f') :
  f.Drift f' ∧ ((∃ e, r = .error (.io e)) ∨
    ∃ text, r = .ok text ∧ f'.contents = f.contents ∧ f.contents file = some text)
  := by
  have hcounted : f.Drift { f with reads := f.reads + 1 } := f.drift_reads _
  have hsame : { f with reads := f.reads + 1 }.contents = f.contents := f.contents_reads _
  rw [read, Action.ends_modify_bind_iff] at h
  rcases Action.ends_bind_iff.1 h with ⟨_, g, hg, hrest⟩ | ⟨e, hfail, rfl⟩
  · obtain ⟨hdrift, ⟨_, ⟨⟩⟩ | ⟨-, hcontents⟩⟩ := ends_attempt hg
    rw [Action.ends_get_bind_iff] at hrest
    split at hrest
    · rename_i text htext
      obtain ⟨rfl, rfl⟩ := Action.ends_pure_iff.1 hrest
      use hcounted.trans hdrift
      right
      use text, rfl, hcontents.trans hsame
      rw [← htext, hcontents, hsame]
    · obtain ⟨rfl, rfl⟩ := Action.ends_throw_iff.1 hrest
      use hcounted.trans hdrift
      left
      exact ⟨_, rfl⟩
  · obtain ⟨hdrift, ⟨e, ⟨⟩⟩ | ⟨⟨⟩, -⟩⟩ := ends_attempt hfail
    use hcounted.trans hdrift
    left
    use e

/-! ### Writing -/

/-- How putting contents into a file, for which its folder is made, ends. -/
theorem ends_replace {file : FileName} {text : String} {f f' : Files}
    {r : Except LicenseError Unit}
    (h : (makeFolder >>= fun _ => write file text).Ends f r f') :
  (f.Drift f' ∧ ∃ e, r = .error e) ∨
    r = .ok () ∧ ∃ g, f.Drift g ∧ g.contents = f.contents ∧ f' = g.afterWrite file text
  := by
  rcases Action.ends_bind_iff.1 h with ⟨⟨⟩, g₁, hmade, hrest⟩ | ⟨e, hfail, rfl⟩
  · obtain ⟨hdrift₁, ⟨_, ⟨⟩⟩ | ⟨-, hcontents₁⟩⟩ := ends_attempt hmade
    rcases Action.ends_bind_iff.1 hrest with ⟨⟨⟩, g, hopened, hdone⟩ | ⟨e, hfail, rfl⟩
    · obtain ⟨hdrift, ⟨_, ⟨⟩⟩ | ⟨-, hcontents⟩⟩ := ends_attempt hopened
      cases hdone
      right
      use rfl, g, hdrift₁.trans hdrift, hcontents.trans hcontents₁
    · left
      use hdrift₁.trans (ends_attempt hfail).1, e
  · left
    use (ends_attempt hfail).1, e

end Files

/-! ### Trying again -/

namespace Action

variable {σ α : Type}

/-- It is no use to try again: the outcome is a success, or an error that does not pass. -/
def IsFinal (r : Except LicenseError α) : Prop :=
  ∀ e, r = .error e → e.isTransient = false

variable {act : Action σ α} {p : RetryPolicy} {attempt : UInt32} {s s' : σ}
  {r : Except LicenseError α}

/-- An attempt is the last one, or it fails and another one follows it. -/
theorem ends_retry_iff :
  (act.retry p attempt).Ends s r s' ↔
    (act.Ends s r s' ∧ ∀ e, r = .error e → p.next? attempt e = none) ∨
      ∃ e t next, act.Ends s (.error e) t ∧ p.next? attempt e = some next ∧
        (act.retry p next).Ends t r s'
  := by
  rw [retry, ends_tryCatch_iff]
  constructor
  · rintro (⟨hdone, hr⟩ | ⟨e, t, hfail, hrest⟩)
    · left
      use hdone
      rintro e rfl
      cases hr
    · split at hrest
      · rename_i next hnext
        right
        use e, t, next
      · rename_i hnext
        obtain ⟨rfl, rfl⟩ := ends_throw_iff.1 hrest
        left
        use hfail
        rintro _ ⟨⟩
        apply hnext
  · rintro (⟨hdone, hlast⟩ | ⟨e, t, next, hfail, hnext, hrest⟩)
    · cases r with
      | ok a =>
        left
        use hdone
        rfl
      | error e =>
        right
        use e, s', hdone
        split
        · rename_i next hnext
          cases hnext.symm.trans (hlast e rfl)
        · apply ends_throw_iff.2 ⟨rfl, rfl⟩
    · right
      use e, t, hfail
      split
      · rename_i next' hnext'
        cases hnext.symm.trans hnext'
        apply hrest
      · rename_i hnone
        cases hnext.symm.trans hnone

/-- What does not fail, or fails for good, is not tried again. -/
theorem retry_ends (h : act.Ends s r s') (hr : IsFinal r) (p : RetryPolicy) :
  (act.retry p attempt).Ends s r s'
  := by
  apply ends_retry_iff.2
  left
  use h
  intro e he
  apply RetryPolicy.next?_eq_none_iff.2
  left
  apply hr e he

/-- An action that fails without having written may be retried: it ends as it ends once in
files that have drifted. -/
theorem ends_retry {act : FileAction α} {f f' : Files}
    (hact : ∀ {f e f'}, act.Ends f (.error e) f' → f.Drift f')
    (h : (act.retry p attempt).Ends f r f') :
  ∃ g, f.Drift g ∧ act.Ends g r f'
  := by
  induction attempt using retry.induct p generalizing f with
  | case1 attempt ih =>
    rcases ends_retry_iff.1 h with ⟨hdone, -⟩ | ⟨e, g, next, hfail, hnext, hrest⟩
    · use f, .refl f
    · obtain ⟨g', hg', hdone⟩ := ih e next hnext hrest
      use g', (hact hfail).trans hg'

end Action

/-! ### When nothing fails -/

namespace Files

/-- Nothing is to fail. -/
structure Calm (f : Files) : Prop where
  schedule : f.schedule = []
  faults : f.faults = []

theorem Calm.leaves {f : Files} (h : f.Calm) (file : FileName) :
  f.Leaves file
  := by
  constructor
  · rw [h.schedule]
    rintro _ ⟨⟩
  · rw [h.faults]
    rintro _ ⟨⟩

theorem Calm.reads {f : Files} (h : f.Calm) (n : Nat) :
  Calm { f with reads := n }
  := ⟨h.schedule, h.faults⟩

theorem Calm.ends_attempt {f : Files} (h : f.Calm) (file : FileName)
    (operation : FileOperation) :
  (attempt file operation).Ends f (.ok ()) f
  := by
  have hnext : f.next file operation = (none, f) := by
    rcases f with ⟨store, record, reads, written, schedule, faults⟩
    obtain ⟨rfl, rfl⟩ := h
    rfl
  rw [attempt, Action.ends_get_bind_iff, hnext]
  rfl

theorem Calm.ends_read {f : Files} (h : f.Calm) {file : FileName} {text : String}
    (htext : f.contents file = some text) :
  (read file).Ends f (.ok text) { f with reads := f.reads + 1 }
  := by
  have hcounted : Calm { f with reads := f.reads + 1 } := ⟨h.schedule, h.faults⟩
  have hcontents : contents { f with reads := f.reads + 1 } file = some text := by
    rw [contents_reads, htext]
  rw [read, Action.ends_modify_bind_iff]
  apply Action.ends_bind_iff.2
  left
  use (), { f with reads := f.reads + 1 }, hcounted.ends_attempt file .read
  rw [Action.ends_get_bind_iff, hcontents]
  rfl

theorem Calm.ends_retry_read {f : Files} (h : f.Calm) (file : FileName) {text : String}
    (htext : f.contents file = some text) (p : RetryPolicy) :
  (p.run (read file)).Ends f (.ok text) { f with reads := f.reads + 1 }
  := by
  apply Action.retry_ends (h.ends_read htext)
  rintro _ ⟨⟩

theorem Calm.ends_replace {f : Files} (h : f.Calm) (file : FileName) (text : String) :
  (makeFolder >>= fun _ => write file text).Ends f (.ok ()) (f.afterWrite file text)
  := by
  apply Action.ends_bind_iff.2
  left
  use (), f, h.ends_attempt .store .makeFolder
  apply Action.ends_bind_iff.2
  left
  use (), f, h.ends_attempt file .write
  rfl

end Files

/-! ### The store -/

namespace Configuration

/-- The configuration that the contents of the store describe. -/
def ofContents? : (contents : Option String) → Option Configuration
  | none => some {}
  | some text => ofText? text

/-- How loading the configuration ends. -/
theorem ends_load {f f' : Files} {r : Except LicenseError Configuration}
    (h : load.Ends f r f') :
  f.Drift f' ∧ ((∃ e, r = .error (.io e)) ∨
    (r = .error .serialization ∧ ofContents? f.store = none) ∨
      ∃ c, r = .ok c ∧ f'.store = f.store ∧ ofContents? f.store = some c)
  := by
  rw [load, Action.ends_get_bind_iff] at h
  cases hstore : f.store with
  | none =>
    rw [hstore] at h
    obtain ⟨rfl, rfl⟩ := Action.ends_pure_iff.1 h
    use .refl f'
    right
    right
    use {}, rfl, hstore
    rfl
  | some text =>
    rw [hstore] at h
    change (Files.read .store >>= _).Ends f r f' at h
    rcases Action.ends_bind_iff.1 h with ⟨text', g, hg, hrest⟩ | ⟨e, hfail, rfl⟩
    · obtain ⟨hdrift, ⟨_, ⟨⟩⟩ | ⟨_, ⟨⟩, hcontents, htext⟩⟩ := Files.ends_read hg
      cases hstore.symm.trans htext
      split at hrest
      · rename_i c hc
        obtain ⟨rfl, rfl⟩ := Action.ends_pure_iff.1 hrest
        use hdrift
        right
        right
        use c, rfl, (congrFun hcontents .store).trans htext, hc
      · rename_i hc
        obtain ⟨rfl, rfl⟩ := Action.ends_throw_iff.1 hrest
        use hdrift
        right
        left
        use rfl, hc
    · obtain ⟨hdrift, ⟨e, ⟨⟩⟩ | ⟨_, ⟨⟩, -⟩⟩ := Files.ends_read hfail
      use hdrift
      left
      use e

/-- When nothing fails, loading finds the configuration that the store contains. -/
theorem ends_load_of_calm {f : Files} {c : Configuration} (h : f.Calm)
    (hc : ofContents? f.store = some c) :
  ∃ n, load.Ends f (.ok c) { f with reads := n }
  := by
  rcases Option.eq_none_or_eq_some f.store with hstore | ⟨text, hstore⟩
  · rw [hstore] at hc
    cases hc
    use f.reads
    have hnone : f.store.isNone = true := by
      rw [hstore]
      rfl
    rw [load, Action.ends_get_bind_iff, if_pos hnone]
    rfl
  · rw [hstore] at hc
    change ofText? text = some c at hc
    use f.reads + 1
    have hsome : ¬ f.store.isNone = true := by
      rw [hstore]
      rintro ⟨⟩
    rw [load, Action.ends_get_bind_iff, if_neg hsome]
    apply Action.ends_bind_iff.2
    left
    use text, { f with reads := f.reads + 1 }, h.ends_read hstore
    rw [hc]
    rfl

/-- When nothing fails but the store contains no configuration, loading says so. -/
theorem ends_load_of_calm_of_none {f : Files} (h : f.Calm) (hc : ofContents? f.store = none) :
  load.Ends f (.error .serialization) { f with reads := f.reads + 1 }
  := by
  rcases Option.eq_none_or_eq_some f.store with hstore | ⟨text, hstore⟩
  · rw [hstore] at hc
    cases hc
  · rw [hstore] at hc
    change ofText? text = none at hc
    have hsome : ¬ f.store.isNone = true := by
      rw [hstore]
      rintro ⟨⟩
    rw [load, Action.ends_get_bind_iff, if_neg hsome]
    apply Action.ends_bind_iff.2
    left
    use text, { f with reads := f.reads + 1 }, h.ends_read hstore
    rw [hc]
    rfl

/-- When nothing fails, the store is loaded at the first attempt. -/
theorem ends_retry_load_of_calm {f : Files} {c : Configuration} (h : f.Calm)
    (hc : ofContents? f.store = some c) (p : RetryPolicy) :
  ∃ n, (p.run load).Ends f (.ok c) { f with reads := n }
  := by
  obtain ⟨n, hload⟩ := ends_load_of_calm h hc
  use n
  apply Action.retry_ends hload
  rintro _ ⟨⟩

/-- Contents that describe no configuration are no reason to try again. -/
theorem ends_retry_load_of_calm_of_none {f : Files} (h : f.Calm)
    (hc : ofContents? f.store = none) (p : RetryPolicy) :
  (p.run load).Ends f (.error .serialization) { f with reads := f.reads + 1 }
  := by
  apply Action.retry_ends (ends_load_of_calm_of_none h hc)
  rintro _ ⟨⟩
  rfl

end Configuration

end Entitlement
