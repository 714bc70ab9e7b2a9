import Entitlement.Evaluation.Interleaving
import Entitlement.Proofs.Evaluation.Record
import Entitlement.Proofs.Evaluation.Registration
import Entitlement.Proofs.Store.Configuration

/-!
# The steps of registrations

A registration that takes all its steps at one instant, with nobody else taking any, is what
`Registrar.register` is (`Scene.run_set`). When nothing fails, `Registrar.Moves` says for
each step what it does to the files and how far the registration has come after it, and
`Registrar.moves_advance` shows that there are no others.

All registrars see the same in the files: whether a key is active does not depend on who looks
at it (`Registrar.isActive_eq`), and the record allows the same to all with one waiting time.
-/

namespace Entitlement

variable [SignatureScheme]

/-! ### Single steps -/

namespace Registrar

theorem advance_begun (r : Registrar) (now : Instant) (guid : Guid) (f : Files) :
  (r.advance now guid .begun).run f =
    (match ((r.eligibility now.day).run f).1 with
      | .eligible => .admitted
      | .withinEvaluation validTo => .running validTo
      | e => .ended (.ok (.ineligible e)), ((r.eligibility now.day).run f).2)
  := by
  change ((r.eligibility now.day) >>= _).run f = _
  rw [StateT.run_bind]
  rcases (r.eligibility now.day).run f with ⟨e, f'⟩
  cases e <;> rfl

theorem advance_admitted (r : Registrar) (now : Instant) (guid : Guid) (f : Files) :
  (r.advance now guid .admitted).run f =
    (match r.issue now guid with
      | .ok key => .issued key
      | .error e => .ended (.error e), f)
  := by
  rw [advance]
  cases r.issue now guid <;> rfl

theorem advance_dated (r : Registrar) (now : Instant) (guid : Guid) (key : String)
    (today : Date) (f : Files) :
  (r.advance now guid (.dated key today)).run f =
    (match ((r.store today key).run.run f).1 with
      | .ok outcome => .entered outcome
      | .error e => .ended (.error e), ((r.store today key).run.run f).2)
  := by
  change ((r.store today key).run >>= _).run f = _
  rw [StateT.run_bind]
  rcases (r.store today key).run.run f with ⟨o, f'⟩
  cases o <;> rfl

theorem advance_entered (r : Registrar) (now : Instant) (guid : Guid) (outcome : Outcome)
    (f : Files) :
  (r.advance now guid (.entered outcome)).run f =
    (.ended (.ok outcome), match outcome.key? with
      | some key => ((r.noteRegistered key).run f).2
      | none => f)
  := by
  rw [advance]
  cases outcome <;> rfl

theorem advance_searching (r : Registrar) (now : Instant) (guid : Guid) (validTo today : Date)
    (f : Files) :
  (r.advance now guid (.searching validTo today)).run f =
    (match ((r.findRegistered today).run.run f).1 with
      | .ok (some key) => .ended (.ok (.alreadyRegistered key))
      | .ok none => .ended (.ok (.ineligible (.withinEvaluation validTo)))
      | .error e => .ended (.error e), ((r.findRegistered today).run.run f).2)
  := by
  change ((r.findRegistered today).run >>= _).run f = _
  rw [StateT.run_bind]
  rcases (r.findRegistered today).run.run f with ⟨o, f'⟩
  rcases o with _ | _ | _ <;> rfl

end Registrar

/-! ### One party -/

section

variable (f : Files) (ps : List Party) (r : Registrar) (guid : Guid) (now : Instant) {i : Nat}

theorem Scene.turn_set (hi : i < ps.length) (phase : Phase) :
  (⟨f, ps.set i ⟨r, guid, phase⟩⟩ : Scene).turn ⟨i, now⟩ =
    ⟨((r.advance now guid phase).run f).2,
      ps.set i ⟨r, guid, ((r.advance now guid phase).run f).1⟩⟩
  := by
  rw [turn, List.getElem?_set_self hi]
  dsimp only
  rcases (r.advance now guid phase).run f with ⟨phase', f'⟩
  dsimp only
  rw [List.set_set]

/-- A registration that has ended stays as it is. -/
theorem Scene.run_set_ended (hi : i < ps.length) (result : Except LicenseError Outcome)
    (n : Nat) :
  (⟨f, ps.set i ⟨r, guid, .ended result⟩⟩ : Scene).run (List.replicate n ⟨i, now⟩) =
    ⟨f, ps.set i ⟨r, guid, .ended result⟩⟩
  := by
  induction n with
  | zero => rfl
  | succ n ih =>
    change (((⟨f, ps.set i ⟨r, guid, .ended result⟩⟩ : Scene).turn ⟨i, now⟩).run
      (List.replicate n ⟨i, now⟩)) = _
    rw [turn_set f ps r guid now hi]
    apply ih

/-- Steps at one instant that nobody comes between are a registration. -/
theorem Scene.run_set (hi : i < ps.length) :
  (⟨f, ps.set i ⟨r, guid, .begun⟩⟩ : Scene).run (List.replicate 5 ⟨i, now⟩) =
    ⟨((r.register now guid).run.run f).2,
      ps.set i ⟨r, guid, .ended ((r.register now guid).run.run f).1⟩⟩
  := by
  obtain ⟨o, f', hends⟩ : ∃ o f', (r.register now guid).Ends f o f' := ⟨_, _, rfl⟩
  have hrun : (r.register now guid).run.run f = (o, f') := hends
  rw [hrun]
  rw [Registrar.register, liftM, Action.ends_state_bind_iff] at hends
  change (((((⟨f, ps.set i ⟨r, guid, .begun⟩⟩ : Scene).turn ⟨i, now⟩).turn ⟨i, now⟩).turn
    ⟨i, now⟩).turn ⟨i, now⟩).turn ⟨i, now⟩ = _
  rw [turn_set f ps r guid now hi, Registrar.advance_begun]
  generalize (r.eligibility now.day).run f = x at hends ⊢
  rcases x with ⟨e, g⟩
  cases e with
  | eligible =>
    dsimp only
    rw [turn_set g ps r guid now hi, Registrar.advance_admitted]
    rcases Action.ends_except_bind_iff.1 hends with ⟨key, hkey, hrest⟩ | ⟨e, hfail, rfl, rfl⟩
    · rw [hkey]
      dsimp only
      rw [turn_set g ps r guid now hi (.issued key)]
      change ((⟨g, ps.set i ⟨r, guid, .dated key now.day⟩⟩ : Scene).turn ⟨i, now⟩).turn
        ⟨i, now⟩ = _
      rw [turn_set g ps r guid now hi, Registrar.advance_dated]
      rcases Action.ends_bind_iff.1 hrest with ⟨outcome, g', hstore, hnote⟩ | ⟨e, hfail, rfl⟩
      · have hstored : (r.store now.day key).run.run g = (.ok outcome, g') := hstore
        rw [hstored]
        dsimp only
        rw [turn_set g' ps r guid now hi, Registrar.advance_entered]
        cases outcome with
        | ineligible e =>
          obtain ⟨rfl, rfl⟩ := Action.ends_pure_iff.1 hnote
          rfl
        | registered key | alreadyRegistered key =>
          cases hnote
          rfl
      · have hstored : (r.store now.day key).run.run g = (.error e, f') := hfail
        rw [hstored]
        apply run_set_ended f' ps r guid now hi (.error e) 1
    · rw [hfail]
      apply run_set_ended _ ps r guid now hi (.error e) 3
  | withinEvaluation validTo =>
    dsimp only
    rw [turn_set g ps r guid now hi (.running validTo)]
    change (((⟨g, ps.set i ⟨r, guid, .searching validTo now.day⟩⟩ : Scene).turn ⟨i, now⟩).turn
      ⟨i, now⟩).turn ⟨i, now⟩ = _
    rw [turn_set g ps r guid now hi, Registrar.advance_searching]
    rcases Action.ends_bind_iff.1 hends with ⟨key?, g', hfind, hdone⟩ | ⟨e, hfail, rfl⟩
    · have hfound : (r.findRegistered now.day).run.run g = (.ok key?, g') := hfind
      rw [hfound]
      cases key? with
      | none | some key =>
        obtain ⟨rfl, rfl⟩ := Action.ends_pure_iff.1 hdone
        apply run_set_ended f' ps r guid now hi _ 2
    · have hfound : (r.findRegistered now.day).run.run g = (.error e, f') := hfail
      rw [hfound]
      apply run_set_ended f' ps r guid now hi (.error e) 2
  | withinCooldown eligibleAfter | blocked fault =>
    obtain ⟨rfl, rfl⟩ := Action.ends_pure_iff.1 hends
    apply run_set_ended f' ps r guid now hi _ 4

end

/-! ### What all registrars agree on -/

namespace Registrar

omit [SignatureScheme] in
/-- What describes a license does not depend on who is trusted. -/
theorem registrationOf_congr (trust trust' : TrustPolicy) (key : String) :
  Eligibility.registrationOf trust key = Eligibility.registrationOf trust' key
  := by
  rw [Eligibility.registrationOf, Eligibility.registrationOf, License.ofText, License.ofText]
  by_cases hblank : Text.trim key = ""
  · rw [if_pos hblank, if_pos hblank]
  · rw [if_neg hblank, if_neg hblank]
    by_cases haddress : Url.isWebAddress (Text.trim key) = true
    · rw [if_pos haddress, if_pos haddress]
    · rw [if_neg haddress, if_neg haddress]
      rfl

omit [SignatureScheme] in
theorem isActive_eq (r r' : Registrar) :
  r.isActive = r'.isActive
  := by
  funext today key
  rw [isActive, isActive, registrationOf_congr r.trust r'.trust]

omit [SignatureScheme] in
theorem findActive?_eq (r r' : Registrar) :
  r.findActive? = r'.findActive?
  := by
  funext today c
  rw [findActive?, findActive?, isActive_eq r r']

omit [SignatureScheme] in
theorem judgement_eq {r r' : Registrar} (h : r.options = r'.options) :
  r.judgement = r'.judgement
  := by
  funext today record
  cases record with
  | none => rfl
  | some text =>
    rw [judgement, judgement, Eligibility.ofRecord, Eligibility.ofRecord, cooldownDays, h]
    rcases EvaluationRecord.ofText? text with _ | ⟨_ | key⟩
    · rfl
    · rfl
    · dsimp only
      rw [registrationOf_congr r.trust r'.trust key]
      rfl

/-! ### Steps when nothing fails -/

/-- The steps of a registration when nothing fails, each with what it does to the files. -/
inductive Moves (r : Registrar) (now : Instant) (guid : Guid) (f f' : Files) :
    Phase → Phase → Prop where
  | admitted (same : f'.contents = f.contents)
    (judged : r.judgement now.day f.record = .eligible) : Moves r now guid f f' .begun .admitted
  | running {validTo : Date} (same : f'.contents = f.contents)
    (judged : r.judgement now.day f.record = .withinEvaluation validTo) :
    Moves r now guid f f' .begun (.running validTo)
  | refused {e : Eligibility} (same : f'.contents = f.contents)
    (judged : r.judgement now.day f.record = e) (ineligible : e ≠ .eligible)
    (ended : ∀ validTo, e ≠ .withinEvaluation validTo) :
    Moves r now guid f f' .begun (.ended (.ok (.ineligible e)))
  | issued {key : String} (same : f'.contents = f.contents)
    (issued : r.issue now guid = .ok key) : Moves r now guid f f' .admitted (.issued key)
  | unissued {e : LicenseError} (same : f'.contents = f.contents)
    (failed : r.issue now guid = .error e) : Moves r now guid f f' .admitted (.ended (.error e))
  | dated {key : String} (same : f'.contents = f.contents) :
    Moves r now guid f f' (.issued key) (.dated key now.day)
  | found {key other : String} {today : Date} {c : Configuration}
    (same : f'.contents = f.contents) (loaded : Configuration.ofContents? f.store = some c)
    (active : r.findActive? today c = some other) :
    Moves r now guid f f' (.dated key today) (.entered (.alreadyRegistered other))
  | added {key : String} {today : Date} {c : Configuration}
    (stored : f'.store = some ((c.add? key).getD c).text) (record : f'.record = f.record)
    (loaded : Configuration.ofContents? f.store = some c)
    (inactive : r.findActive? today c = none) :
    Moves r now guid f f' (.dated key today) (.entered (.registered key))
  | unstored {key : String} {today : Date} {e : LicenseError} (same : f'.contents = f.contents)
    (failed : r.lockUsable = false ∨ Configuration.ofContents? f.store = none) :
    Moves r now guid f f' (.dated key today) (.ended (.error e))
  | noted {outcome : Outcome} (store : f'.store = f.store)
    (record : f'.record = match outcome.key? with
      | some key => some (EvaluationRecord.text ⟨some key⟩)
      | none => f.record) :
    Moves r now guid f f' (.entered outcome) (.ended (.ok outcome))
  | reread {validTo : Date} (same : f'.contents = f.contents) :
    Moves r now guid f f' (.running validTo) (.searching validTo now.day)
  | recalled {validTo today : Date} {key : String} {c : Configuration}
    (same : f'.contents = f.contents) (loaded : Configuration.ofContents? f.store = some c)
    (active : r.findActive? today c = some key) :
    Moves r now guid f f' (.searching validTo today) (.ended (.ok (.alreadyRegistered key)))
  | missed {validTo today : Date} {c : Configuration} (same : f'.contents = f.contents)
    (loaded : Configuration.ofContents? f.store = some c)
    (inactive : r.findActive? today c = none) :
    Moves r now guid f f' (.searching validTo today)
      (.ended (.ok (.ineligible (.withinEvaluation validTo))))
  | unread {validTo today : Date} {e : LicenseError} (same : f'.contents = f.contents)
    (failed : r.lockUsable = false ∨ Configuration.ofContents? f.store = none) :
    Moves r now guid f f' (.searching validTo today) (.ended (.error e))
  | rest {result : Except LicenseError Outcome} (same : f'.contents = f.contents) :
    Moves r now guid f f' (.ended result) (.ended result)

variable {f : Files}

omit [SignatureScheme] in
/-- When nothing fails, the store is searched under its lock, if it can be read. -/
theorem exists_findRegistered (r : Registrar) (today : Date) (h : f.Calm) :
  ∃ o n, (r.findRegistered today).Ends f o { f with reads := n } ∧
    ((∃ e, o = .error e ∧ (r.lockUsable = false ∨ Configuration.ofContents? f.store = none)) ∨
      ∃ c, o = .ok (r.findActive? today c) ∧ Configuration.ofContents? f.store = some c)
  := by
  cases hlock : r.lockUsable with
  | false =>
    use .error .lock, f.reads, ends_unlocked hlock
    left
    use .lock, rfl
    left
    rfl
  | true =>
    cases hc : Configuration.ofContents? f.store with
    | none =>
      have hretry : (r.retry Configuration.load).Ends f (.error .serialization)
          { f with reads := f.reads + 1 } :=
        Configuration.ends_retry_load_of_calm_of_none h hc _
      use .error .serialization, f.reads + 1
      constructor
      · apply (ends_locked_iff hlock).2
        apply Action.ends_bind_iff.2
        right
        use .serialization, hretry
      · left
        use .serialization, rfl
        right
        rfl
    | some c =>
      obtain ⟨n, hretry⟩ := Configuration.ends_retry_load_of_calm h hc r.options.retryPolicy
      use .ok (r.findActive? today c), n
      constructor
      · apply (ends_locked_iff hlock).2
        apply Action.ends_bind_iff.2
        left
        use c, { f with reads := n }, hretry
        rfl
      · right
        use c

/-- When nothing fails, a step to the store is one of three. -/
theorem moves_dated (r : Registrar) (now : Instant) (guid : Guid) (key : String) (today : Date)
    (h : f.Calm) :
  ∃ phase f', (r.advance now guid (.dated key today)).run f = (phase, f') ∧ f'.Calm ∧
    r.Moves now guid f f' (.dated key today) phase
  := by
  rw [advance_dated]
  cases hlock : r.lockUsable with
  | false =>
    have hends : (r.store today key).Ends f (.error .lock) f := ends_unlocked hlock
    rw [hends]
    exact ⟨_, _, rfl, h, .unstored rfl (.inl hlock)⟩
  | true =>
    cases hc : Configuration.ofContents? f.store with
    | none =>
      have henter : (r.enter today key).Ends f (.error .serialization)
          { f with reads := f.reads + 1 } := by
        apply Action.ends_bind_iff.2
        right
        use .serialization, Configuration.ends_load_of_calm_of_none h hc
      have hends : (r.store today key).Ends f (.error .serialization)
          { f with reads := f.reads + 1 } := by
        apply (ends_locked_iff hlock).2
        apply Action.retry_ends henter
        rintro _ ⟨⟩
        rfl
      rw [hends]
      exact ⟨_, _, rfl, h.reads _, .unstored (f.contents_reads _) (.inr hc)⟩
    | some c =>
      cases hactive : r.findActive? today c with
      | some other =>
        obtain ⟨n, hends⟩ := ends_store_of_calm_of_some key h hlock hc hactive
        rw [hends]
        exact ⟨_, _, rfl, h.reads _, .found (f.contents_reads _) hc hactive⟩
      | none =>
        obtain ⟨n, hends⟩ := ends_store_of_calm_of_none key h hlock hc hactive
        rw [hends]
        exact ⟨_, _, rfl, ⟨h.schedule, h.faults⟩, .added rfl rfl hc hactive⟩

/-- When nothing fails, a registration takes one of these steps. -/
theorem moves_advance (r : Registrar) (now : Instant) (guid : Guid) (phase : Phase)
    (h : f.Calm) :
  ∃ phase' f', (r.advance now guid phase).run f = (phase', f') ∧ f'.Calm ∧
    r.Moves now guid f f' phase phase'
  := by
  cases phase with
  | begun =>
    obtain ⟨n, hrun⟩ := run_eligibility_of_calm r now.day h
    rw [advance_begun, hrun]
    refine ⟨_, _, rfl, h.reads n, ?_⟩
    cases hjudged : r.judgement now.day f.record with
    | eligible => apply Moves.admitted (f.contents_reads n) hjudged
    | withinEvaluation validTo => apply Moves.running (f.contents_reads n) hjudged
    | withinCooldown after | blocked fault =>
      apply Moves.refused (f.contents_reads n) hjudged
      · rintro ⟨⟩
      · rintro _ ⟨⟩
  | admitted =>
    rw [advance_admitted]
    refine ⟨_, _, rfl, h, ?_⟩
    cases hissued : r.issue now guid with
    | ok key => apply Moves.issued rfl hissued
    | error e => apply Moves.unissued rfl hissued
  | issued key => exact ⟨_, f, rfl, h, .dated rfl⟩
  | dated key today => apply moves_dated r now guid key today h
  | entered outcome =>
    rw [advance_entered]
    cases hkey : outcome.key? with
    | none =>
      refine ⟨_, f, rfl, h, ?_⟩
      apply Moves.noted rfl
      rw [hkey]
    | some key =>
      refine ⟨_, _, rfl, ?_⟩
      dsimp only
      rw [run_noteRegistered_of_calm h]
      constructor
      · exact ⟨h.schedule, h.faults⟩
      · constructor
        · rfl
        · rw [hkey]
          rfl
  | running validTo => exact ⟨_, f, rfl, h, .reread rfl⟩
  | searching validTo today =>
    obtain ⟨o, n, hends, ⟨e, rfl, hfailed⟩ | ⟨c, rfl, hc⟩⟩ := r.exists_findRegistered today h
    · rw [advance_searching, hends]
      exact ⟨_, _, rfl, h.reads n, .unread (f.contents_reads n) hfailed⟩
    · rw [advance_searching, hends]
      refine ⟨_, _, rfl, h.reads n, ?_⟩
      cases hactive : r.findActive? today c with
      | some key => apply Moves.recalled (f.contents_reads n) hc hactive
      | none => apply Moves.missed (f.contents_reads n) hc hactive
  | ended result => exact ⟨_, f, rfl, h, .rest rfl⟩

end Registrar

/-- When nothing fails, a party takes one of these steps, unless there is no such party. -/
theorem Scene.turn_cases (s : Scene) (t : Turn) (h : s.files.Calm) :
  (s.parties[t.party]? = none ∧ s.turn t = s) ∨
    ∃ p phase f, s.parties[t.party]? = some p ∧ f.Calm ∧
      p.registrar.Moves t.now p.guid s.files f p.phase phase ∧
      s.turn t = ⟨f, s.parties.set t.party { p with phase }⟩
  := by
  cases hp : s.parties[t.party]? with
  | none =>
    left
    use rfl
    rw [turn, hp]
  | some p =>
    right
    obtain ⟨phase, f, hrun, hcalm, hmoves⟩ := p.registrar.moves_advance t.now p.guid p.phase h
    use p, phase, f, rfl, hcalm, hmoves
    rw [turn, hp]
    dsimp only
    rw [hrun]

section

variable {f : Files} {r : Registrar} {guid : Guid} {i : Nat} {ps : List Party} {key : String}
  (now₁ now₂ now₃ now₄ now₅ : Instant)

/-- The steps of a party that the record admits, up to the one that reads the day for the
store. -/
theorem Scene.run_dated (hi : i < ps.length) (h : f.Calm)
    (hjudged : r.judgement now₁.day f.record = .eligible) (hissued : r.issue now₂ guid = .ok key) :
  ∃ n, (⟨f, ps.set i ⟨r, guid, .begun⟩⟩ : Scene).run [⟨i, now₁⟩, ⟨i, now₂⟩, ⟨i, now₃⟩] =
    ⟨{ f with reads := n }, ps.set i ⟨r, guid, .dated key now₃.day⟩⟩
  := by
  obtain ⟨n, hrun⟩ := Registrar.run_eligibility_of_calm r now₁.day h
  use n
  change (((⟨f, ps.set i ⟨r, guid, .begun⟩⟩ : Scene).turn ⟨i, now₁⟩).turn ⟨i, now₂⟩).turn
    ⟨i, now₃⟩ = _
  rw [turn_set f ps r guid now₁ hi, Registrar.advance_begun, hrun, hjudged]
  dsimp only
  rw [turn_set _ ps r guid now₂ hi, Registrar.advance_admitted, hissued]
  apply turn_set _ ps r guid now₃ hi

/-- The steps of a party that adds a key to the store and notes it. -/
theorem Scene.run_added (guid : Guid) (key : String) (hi : i < ps.length) (h : f.Calm)
    (hlock : r.lockUsable = true) {today : Date} {c : Configuration}
    (hc : Configuration.ofContents? f.store = some c)
    (hinactive : r.findActive? today c = none) :
  ∃ n, (⟨f, ps.set i ⟨r, guid, .dated key today⟩⟩ : Scene).run [⟨i, now₄⟩, ⟨i, now₅⟩] =
    ⟨({ f with reads := n }.afterWrite .store ((c.add? key).getD c).text).afterWrite .record
        (EvaluationRecord.text ⟨some key⟩),
      ps.set i ⟨r, guid, .ended (.ok (.registered key))⟩⟩
  := by
  obtain ⟨n, hstore⟩ :=
    Registrar.ends_store_of_calm_of_none key h hlock hc hinactive
  have hcalm : Files.Calm ({ f with reads := n }.afterWrite .store ((c.add? key).getD c).text) :=
    ⟨h.schedule, h.faults⟩
  use n
  change ((⟨f, ps.set i ⟨r, guid, .dated key today⟩⟩ : Scene).turn ⟨i, now₄⟩).turn ⟨i, now₅⟩ = _
  rw [turn_set f ps r guid now₄ hi, Registrar.advance_dated, hstore]
  dsimp only
  rw [turn_set _ ps r guid now₅ hi, Registrar.advance_entered]
  dsimp only [Outcome.key?]
  rw [Registrar.run_noteRegistered_of_calm hcalm]

/-- The steps of a party that registers, with nobody between them. -/
theorem Scene.run_registered (hi : i < ps.length) (h : f.Calm) (hlock : r.lockUsable = true)
    (hjudged : r.judgement now₁.day f.record = .eligible)
    (hissued : r.issue now₂ guid = .ok key) {c : Configuration}
    (hc : Configuration.ofContents? f.store = some c)
    (hinactive : r.findActive? now₃.day c = none) :
  ∃ f', (⟨f, ps.set i ⟨r, guid, .begun⟩⟩ : Scene).run
      [⟨i, now₁⟩, ⟨i, now₂⟩, ⟨i, now₃⟩, ⟨i, now₄⟩, ⟨i, now₅⟩] =
        ⟨f', ps.set i ⟨r, guid, .ended (.ok (.registered key))⟩⟩ ∧
    f'.Calm ∧ f'.store = some ((c.add? key).getD c).text ∧
    f'.record = some (EvaluationRecord.text ⟨some key⟩)
  := by
  obtain ⟨m, hdated⟩ := run_dated now₁ now₂ now₃ hi h hjudged hissued
  obtain ⟨n, hadded⟩ := run_added now₄ now₅ guid key hi (h.reads m) hlock hc hinactive
  have hrun : (⟨f, ps.set i ⟨r, guid, .begun⟩⟩ : Scene).run
      ([⟨i, now₁⟩, ⟨i, now₂⟩, ⟨i, now₃⟩] ++ [⟨i, now₄⟩, ⟨i, now₅⟩]) = _ :=
    List.foldl_append.trans ((congrArg (fun s => Scene.run s _) hdated).trans hadded)
  refine ⟨_, hrun, ⟨h.schedule, h.faults⟩, rfl, rfl⟩

end

/-! ### Parties -/

omit [SignatureScheme] in
theorem forall_getElem?_set {α : Type} {xs : List α} {P : Nat → α → Prop} {j : Nat} {y : α}
    (h : ∀ i x, i ≠ j → xs[i]? = some x → P i x) (hy : P j y) :
  ∀ i x, (xs.set j y)[i]? = some x → P i x
  := by
  intro i x hx
  rw [List.getElem?_set] at hx
  split at hx
  · rename_i hij
    split at hx
    · cases hx
      rw [← hij]
      apply hy
    · cases hx
  · rename_i hij
    apply h i x (Ne.symm hij) hx

namespace Scene

/-- All parties are about to register with the settings of the registrar, and nothing fails. -/
structure Ready (s : Scene) (r : Registrar) : Prop where
  calm : s.files.Calm
  begun : ∀ p ∈ s.parties, p.phase = .begun
  options : ∀ p ∈ s.parties, p.registrar.options = r.options

/-- A step only changes how far a party has come. -/
theorem turn_party (s : Scene) (t : Turn) :
  ∀ (i : Nat) (q : Party), (s.turn t).parties[i]? = some q →
    ∃ (p : Party) (phase : Phase), s.parties[i]? = some p ∧ q = { p with phase }
  := by
  have hsame : ∀ (i : Nat) (q : Party), s.parties[i]? = some q →
      ∃ (p : Party) (phase : Phase), s.parties[i]? = some p ∧ q = { p with phase } := by
    intro i q hq
    use q, q.phase, hq
  rw [turn]
  cases hp : s.parties[t.party]? with
  | none => apply hsame
  | some p =>
    apply forall_getElem?_set fun i q _ => hsame i q
    exact ⟨p, _, hp, rfl⟩

theorem length_turn (s : Scene) (t : Turn) :
  (s.turn t).parties.length = s.parties.length
  := by
  rw [turn]
  cases s.parties[t.party]? with
  | none => rfl
  | some p => apply List.length_set

theorem parties_turn_self {s : Scene} {t : Turn} {p : Party} (hp : s.parties[t.party]? = some p) :
  (s.turn t).parties[t.party]? =
    some { p with phase := ((p.registrar.advance t.now p.guid p.phase).run s.files).1 }
  := by
  have hlt := (List.getElem?_eq_some_iff.1 hp).1
  rw [turn, hp]
  apply List.getElem?_set_self hlt

theorem parties_turn_of_ne {s : Scene} {t : Turn} {i : Nat} (hi : t.party ≠ i) :
  (s.turn t).parties[i]? = s.parties[i]?
  := by
  rw [turn]
  cases s.parties[t.party]? with
  | none => rfl
  | some p => apply List.getElem?_set_ne hi

theorem run_cons (s : Scene) (t : Turn) (ts : List Turn) :
  s.run (t :: ts) = (s.turn t).run ts
  := rfl

theorem run_append (s : Scene) (ts us : List Turn) :
  s.run (ts ++ us) = (s.run ts).run us
  := List.foldl_append

theorem run_concat (s : Scene) (ts : List Turn) (t : Turn) :
  s.run (ts ++ [t]) = (s.run ts).turn t
  := s.run_append ts [t]

theorem length_run (s : Scene) (ts : List Turn) :
  (s.run ts).parties.length = s.parties.length
  := by
  induction ts generalizing s with
  | nil => rfl
  | cons t ts ih => rw [run_cons, ih, length_turn]

/-- Steps only change how far a party has come. -/
theorem run_party (s : Scene) (ts : List Turn) {i : Nat} {q : Party}
    (hq : (s.run ts).parties[i]? = some q) :
  ∃ (p : Party) (phase : Phase), s.parties[i]? = some p ∧ q = { p with phase }
  := by
  induction ts generalizing s with
  | nil => use q, q.phase, hq
  | cons t ts ih =>
    obtain ⟨p, phase, hp, rfl⟩ := ih (s.turn t) hq
    obtain ⟨p', phase', hp', rfl⟩ := s.turn_party t i p hp
    use p', phase, hp'

/-- When nothing fails, a party takes one of the steps of a registration. -/
theorem moves_turn {s : Scene} {t : Turn} {p : Party} (h : s.files.Calm)
    (hp : s.parties[t.party]? = some p) :
  ∃ phase, (s.turn t).parties[t.party]? = some { p with phase } ∧
    p.registrar.Moves t.now p.guid s.files (s.turn t).files p.phase phase
  := by
  rcases s.turn_cases t h with ⟨hnone, -⟩ | ⟨p', phase, f, hp', -, hmoves, hturn⟩
  · rw [hp] at hnone
    cases hnone
  · cases hp.symm.trans hp'
    have hlt := (List.getElem?_eq_some_iff.1 hp).1
    rw [hturn]
    use phase, List.getElem?_set_self hlt

theorem calm_turn {s : Scene} (h : s.files.Calm) (t : Turn) :
  (s.turn t).files.Calm
  := by
  rcases s.turn_cases t h with ⟨-, hturn⟩ | ⟨p, phase, f, -, hf, -, hturn⟩
  · rw [hturn]
    apply h
  · rw [hturn]
    apply hf

theorem calm_run {s : Scene} (h : s.files.Calm) (ts : List Turn) :
  (s.run ts).files.Calm
  := by
  induction ts generalizing s with
  | nil => apply h
  | cons t ts ih => apply ih (calm_turn h t)

/-- A party that takes no steps gets no further. -/
theorem parties_run_of_forall_ne {s : Scene} {ts : List Turn} {i : Nat}
    (h : ∀ t ∈ ts, t.party ≠ i) :
  (s.run ts).parties[i]? = s.parties[i]?
  := by
  induction ts generalizing s with
  | nil => rfl
  | cons t ts ih =>
    rw [run_cons, ih fun u hu => h u (List.mem_cons_of_mem t hu),
      parties_turn_of_ne (h t List.mem_cons_self)]

/-- When nothing fails, what holds of how far a party has come, and did not hold before, has come
to hold by one of its steps. -/
theorem exists_moves {P : Phase → Prop} {s : Scene} {ts : List Turn} {i : Nat} {p q : Party}
    (hcalm : s.files.Calm) (hp : s.parties[i]? = some p) (hbefore : ¬ P p.phase)
    (hq : (s.run ts).parties[i]? = some q) (hafter : P q.phase) :
  ∃ us t vs p' phase, ts = us ++ t :: vs ∧ t.party = i ∧
    (s.run us).parties[i]? = some p' ∧ ¬ P p'.phase ∧
    ((s.run us).turn t).parties[i]? = some { p' with phase } ∧ P phase ∧
    p'.registrar.Moves t.now p'.guid (s.run us).files ((s.run us).turn t).files p'.phase phase
  := by
  induction ts generalizing s p with
  | nil =>
    cases hp.symm.trans hq
    cases hbefore hafter
  | cons t ts ih =>
    by_cases hi : t.party = i
    · obtain ⟨phase, hturn, hmoves⟩ := moves_turn hcalm (hi ▸ hp)
      rw [hi] at hturn
      by_cases hnow : P phase
      · exact ⟨[], t, ts, p, phase, rfl, hi, hp, hbefore, hturn, hnow, hmoves⟩
      · obtain ⟨us, u, vs, p', phase', rfl, hrest⟩ := ih (calm_turn hcalm t) hturn hnow hq
        exact ⟨t :: us, u, vs, p', phase', rfl, hrest⟩
    · have hturn : (s.turn t).parties[i]? = some p := (parties_turn_of_ne hi).trans hp
      obtain ⟨us, u, vs, p', phase', rfl, hrest⟩ := ih (calm_turn hcalm t) hturn hbefore hq
      exact ⟨t :: us, u, vs, p', phase', rfl, hrest⟩

end Scene

/-! ### Ends of registrations -/

/-- The number of steps after which a registration has ended. -/
def Phase.stepsLeft : Phase → Nat
  | .begun => 5
  | .admitted => 4
  | .issued _ => 3
  | .dated _ _ => 2
  | .entered _ => 1
  | .running _ => 2
  | .searching _ _ => 1
  | .ended _ => 0

omit [SignatureScheme] in
theorem Phase.stepsLeft_eq_zero_iff {phase : Phase} :
  phase.stepsLeft = 0 ↔ ∃ result, phase = .ended result
  := by
  constructor
  · intro h
    cases phase with
    | ended result => use result
    | begun | admitted | issued | dated | entered | running | searching => cases h
  · rintro ⟨result, rfl⟩
    rfl

theorem Registrar.stepsLeft_advance (r : Registrar) (now : Instant) (guid : Guid)
    (phase : Phase) (f : Files) :
  ((r.advance now guid phase).run f).1.stepsLeft ≤ phase.stepsLeft - 1
  := by
  cases phase with
  | begun =>
    rw [advance_begun]
    cases ((r.eligibility now.day).run f).1 <;> simp [Phase.stepsLeft]
  | admitted =>
    rw [advance_admitted]
    cases r.issue now guid <;> simp [Phase.stepsLeft]
  | dated key today =>
    rw [advance_dated]
    cases ((r.store today key).run.run f).1 <;> simp [Phase.stepsLeft]
  | entered outcome =>
    rw [advance_entered]
    simp [Phase.stepsLeft]
  | searching validTo today =>
    rw [advance_searching]
    rcases ((r.findRegistered today).run.run f).1 with _ | _ | _ <;> simp [Phase.stepsLeft]
  | issued key | running validTo | ended result => exact Nat.le_refl _

namespace Scene

theorem stepsLeft_run (s : Scene) (ts : List Turn) {i : Nat} {p : Party}
    (hp : s.parties[i]? = some p) :
  ∃ q : Party, (s.run ts).parties[i]? = some q ∧
    q.phase.stepsLeft ≤ p.phase.stepsLeft - ts.countP fun t => t.party = i
  := by
  induction ts generalizing s p with
  | nil => use p, hp, Nat.le_refl _
  | cons t ts ih =>
    rw [run_cons, List.countP_cons]
    by_cases hi : t.party = i
    · have hturn : (s.turn t).parties[i]? = some _ := hi ▸ parties_turn_self (hi ▸ hp)
      obtain ⟨q, hq, hleft⟩ := ih (s.turn t) hturn
      use q, hq
      have hstep := p.registrar.stepsLeft_advance t.now p.guid p.phase s.files
      rw [if_pos (decide_eq_true hi)]
      dsimp only at hleft
      omega
    · obtain ⟨q, hq, hleft⟩ := ih (s.turn t) ((parties_turn_of_ne hi).trans hp)
      use q, hq
      rw [if_neg (by rw [decide_eq_false hi]; exact Bool.false_ne_true)]
      apply hleft

/-- Parties that have taken five steps each have ended. -/
theorem ended_run {s : Scene} {ts : List Turn}
    (h : ∀ i < s.parties.length, 5 ≤ ts.countP fun t => t.party = i) :
  ∀ p ∈ (s.run ts).parties, ∃ result, p.phase = .ended result
  := by
  intro q hq
  obtain ⟨i, hi⟩ := List.mem_iff_getElem?.1 hq
  have hlt := (List.getElem?_eq_some_iff.1 hi).1
  rw [length_run] at hlt
  obtain ⟨q', hq', hleft⟩ := stepsLeft_run s ts (List.getElem?_eq_getElem hlt)
  cases hi.symm.trans hq'
  apply Phase.stepsLeft_eq_zero_iff.1
  have htaken := h i hlt
  have hmost : s.parties[i].phase.stepsLeft ≤ 5 := by
    cases s.parties[i].phase <;> simp [Phase.stepsLeft]
  omega

end Scene

/-! ### Keys of new licenses -/

namespace Registrar

/-- The key is one of a license for an evaluation that begins on the day. -/
structure Begins (r : Registrar) (key : String) (first : Date) : Prop where
  trim : Text.trim key = key
  ne_empty : key ≠ ""
  registration : ∃ d last, Eligibility.registrationOf r.trust key = .ok d ∧
    d.kind = .evaluation ∧ d.validFrom = some first ∧ d.validTo = some last ∧
    last.day = first.day + r.evaluationDays

variable {r r' : Registrar} {now : Instant} {guid : Guid} {key : String} {first today : Date}

theorem begins_of_issue (hoptions : r'.options = r.options) (h : r'.issue now guid = .ok key) :
  r.Begins key now.day
  := by
  obtain ⟨htrim, hempty⟩ := trim_of_issue h
  obtain ⟨last, hlast, hregistration⟩ := registrationOf_issue h r.trust
  have hday := Date.ofDay?_eq_some_iff.1 hlast
  use htrim, hempty, (spec now last guid).registration key, last, hregistration, rfl, rfl, rfl
  rw [hday, evaluationDays, evaluationDays, hoptions]

omit [SignatureScheme] in
theorem Begins.isActive_iff (h : r.Begins key first) :
  r.isActive today key = true ↔ first ≤ today ∧ today.day ≤ first.day + r.evaluationDays
  := by
  obtain ⟨d, last, hd, hkind, hfirst, hlast, hday⟩ := h.registration
  rw [isActive, hd]
  dsimp only
  rw [hkind, decide_eq_true rfl, Bool.true_and, Registration.isValidOn, Date.isWithin, hfirst,
    hlast, ← hday]
  change (decide (first ≤ today) && decide (today ≤ last)) = true ↔ _
  rw [Bool.and_eq_true, decide_eq_true_iff, decide_eq_true_iff]
  rfl

omit [SignatureScheme] in
theorem Begins.isActive_first (h : r.Begins key first) :
  r.isActive first key = true
  := by
  apply h.isActive_iff.2
  use Int.le_refl first.day
  omega

omit [SignatureScheme] in
/-- While a license is valid, a record with its key says so. -/
theorem Begins.judgement (h : r.Begins key first) (hactive : r.isActive today key = true) :
  ∃ validTo, r.judgement today (some (EvaluationRecord.text ⟨some key⟩)) =
    .withinEvaluation validTo
  := by
  obtain ⟨d, last, hd, hkind, hfirst, hlast, hday⟩ := h.registration
  have hvalid : today ≤ last := by
    have hlater := (h.isActive_iff.1 hactive).2
    change today.day ≤ last.day
    omega
  have hends : EvaluationRecord.EndsOn r.trust (EvaluationRecord.text ⟨some key⟩) last :=
    EvaluationRecord.endsOn_text_iff.2 ⟨d, hd, hkind, hlast⟩
  use last
  rw [Registrar.judgement, Eligibility.ofRecord_of_endsOn hends, Eligibility.ofValidTo_of_le hvalid]

omit [SignatureScheme] in
/-- An active key is appended to a configuration in which none is active. -/
theorem Begins.add? {c : Configuration} (h : r.Begins key first)
    (hactive : r.isActive today key = true) (hinactive : r.findActive? today c = none) :
  c.add? key = some { c with licenses := c.licenses ++ [key] }
  := by
  have habsent : key ∉ c.keys := by
    intro hmem
    apply List.find?_eq_none.1 hinactive key hmem hactive
  unfold Configuration.add?
  dsimp only
  rw [h.trim, List.contains_eq_mem, decide_eq_false habsent]
  rfl

omit [SignatureScheme] in
/-- An active key that has come to keys of which none is active is found. -/
theorem findActive?_of_added {c c' : Configuration}
    (hkeys : ∀ other, other ∈ c'.keys ↔ other = key ∨ other ∈ c.keys)
    (hactive : r.isActive today key = true) (hinactive : r.findActive? today c = none) :
  r.findActive? today c' = some key
  := by
  cases hfound : r.findActive? today c' with
  | none => cases List.find?_eq_none.1 hfound key ((hkeys key).2 (.inl rfl)) hactive
  | some other =>
    obtain ⟨hmem, hother⟩ := isActive_of_findActive? hfound
    rcases (hkeys other).1 hmem with rfl | hmem
    · rfl
    · cases List.find?_eq_none.1 hinactive other hmem hother

end Registrar

end Entitlement
