import Entitlement.Proofs.Evaluation.Agreement

/-!
# Registrations at the same time lie apart

Licenses that several parties add to the store do not overlap, and lie apart by the waiting
time (`Scene.windows_apart`), when no party takes its steps over more than half an evaluation
and each party takes those from the reading of the day for the store on one day. The day is read
before the lock is taken. If it changes in between, two parties may add licenses that overlap
(`Scene.windows_overlap`).

What the steps keep is `Scene.Sound`: a license that was added is in the store, no license that
has not ended ends before it, and what is noted is active. So the record bars new evaluations
until the waiting time after it is over.
-/

namespace Entitlement

/-! ### What steps change -/

/-- The key is one of those in the store. -/
def Files.Holds (f : Files) (key : String) : Prop :=
  ∃ c, Configuration.ofContents? f.store = some c ∧ key ∈ c.keys

theorem Files.holds_iff {f : Files} {c : Configuration} {key : String}
    (hc : Configuration.ofContents? f.store = some c) :
  f.Holds key ↔ key ∈ c.keys
  := by
  constructor
  · rintro ⟨c', hc', hkey⟩
    cases hc.symm.trans hc'
    apply hkey
  · intro hkey
    use c

theorem Files.holds_congr {f f' : Files} {key : String} (h : f'.store = f.store) :
  f'.Holds key ↔ f.Holds key
  := by
  rw [Holds, Holds, h]

namespace Phase

/-- The key that a party has added to the store. -/
def addedKey? : Phase → Option String
  | .entered (.registered key) | .ended (.ok (.registered key)) => some key
  | _ => none

/-- The key of the license that has been issued for a party. -/
def issuedKey? : Phase → Option String
  | .issued key | .dated key _ => some key
  | phase => phase.addedKey?

theorem issuedKey?_of_addedKey? {phase : Phase} {key : String}
    (h : phase.addedKey? = some key) :
  phase.issuedKey? = some key
  := by
  cases phase with
  | entered | ended => apply h
  | begun | admitted | issued | dated | running | searching => cases h

/-- The number of steps that a party has taken on the way to the store. -/
def stepsTaken : Phase → Nat
  | .begun => 0
  | .admitted => 1
  | .issued _ => 2
  | .dated _ _ => 3
  | .entered _ => 4
  | .running _ | .searching _ _ | .ended _ => 0

end Phase

namespace Registrar

variable [SignatureScheme] {r : Registrar} {now : Instant} {guid : Guid} {f f' : Files}
  {phase phase' : Phase}

theorem Moves.stepsTaken (h : r.Moves now guid f f' phase phase') :
  phase'.stepsTaken ≤ phase.stepsTaken + 1
  := by
  cases h <;> simp [Phase.stepsTaken]

/-- Only a party that the record admits takes a step on the way to the store. -/
theorem Moves.judged (h : r.Moves now guid f f' phase phase') (hbefore : phase.stepsTaken = 0)
    (hafter : phase'.stepsTaken ≠ 0) :
  phase = .begun ∧ r.judgement now.day f.record = .eligible
  := by
  cases h with
  | admitted same judged => use rfl, judged
  | issued | unissued | dated | found | added | unstored | noted => cases hbefore
  | running | refused | reread | recalled | missed | unread | rest => cases hafter rfl

/-- A key that a party has issued was issued by the step, if not before. -/
theorem Moves.issuedKey? {key : String} (h : r.Moves now guid f f' phase phase')
    (hkey : phase'.issuedKey? = some key) :
  phase.issuedKey? = some key ∨ r.issue now guid = .ok key
  := by
  cases h with
  | issued same issued =>
    right
    cases hkey
    apply issued
  | dated same | added stored record loaded inactive =>
    left
    apply hkey
  | @noted outcome store record =>
    left
    cases outcome with
    | registered key => apply hkey
    | alreadyRegistered key | ineligible e => cases hkey
  | rest same =>
    left
    apply hkey
  | admitted | running | refused | unissued | found | unstored | reread | recalled | missed
  | unread => cases hkey

/-- A step leaves the keys in the store as they are, or adds one when none is active. -/
theorem Moves.holds (h : r.Moves now guid f f' phase phase')
    (hissued : ∀ key, phase.issuedKey? = some key → Text.trim key = key ∧ key ≠ "") :
  (∀ key, f'.Holds key ↔ f.Holds key) ∧
      (∀ key, phase'.addedKey? = some key → phase.addedKey? = some key) ∨
    ∃ key today, phase = .dated key today ∧ phase' = .entered (.registered key) ∧
      (∀ other, f.Holds other → r.isActive today other = false) ∧
      ∀ other, f'.Holds other ↔ other = key ∨ f.Holds other
  := by
  cases h with
  | @added key today c stored record loaded inactive =>
    right
    obtain ⟨htrim, hempty⟩ := hissued key rfl
    obtain ⟨c', hc', hkeys⟩ := Configuration.exists_ofContents?_add loaded htrim hempty
    rw [← stored] at hc'
    use key, today, rfl, rfl
    constructor
    · intro other hother
      apply Bool.eq_false_iff.2
      apply List.find?_eq_none.1 inactive other ((Files.holds_iff loaded).1 hother)
    · intro other
      rw [Files.holds_iff hc', Files.holds_iff loaded, hkeys]
  | @noted outcome store record =>
    left
    use fun key => Files.holds_congr store
    intro key hkey
    cases outcome with
    | registered key => apply hkey
    | alreadyRegistered key | ineligible e => cases hkey
  | rest same =>
    left
    use fun key => Files.holds_congr (congrFun same .store)
    intro key hkey
    apply hkey
  | admitted same | running same | refused same | issued same | unissued same | dated same
  | found same | unstored same | reread same | recalled same | missed same | unread same =>
    left
    use fun key => Files.holds_congr (congrFun same .store)
    rintro _ ⟨⟩

/-- A step leaves the record as it is, or it is the one that notes a key. -/
theorem Moves.record (h : r.Moves now guid f f' phase phase') :
  (f'.record = f.record ∧
      ∀ key, phase' = .ended (.ok (.registered key)) → phase = .ended (.ok (.registered key))) ∨
    ∃ outcome key, phase = .entered outcome ∧ phase' = .ended (.ok outcome) ∧
      outcome.key? = some key ∧ f'.record = some (EvaluationRecord.text ⟨some key⟩)
  := by
  cases h with
  | @noted outcome store record =>
    cases hkey : outcome.key? with
    | none =>
      left
      rw [hkey] at record
      use record
      rintro key ⟨⟩
      cases hkey
    | some key =>
      right
      rw [hkey] at record
      use outcome, key, rfl, rfl
  | added stored record =>
    left
    use record
    rintro _ ⟨⟩
  | rest same =>
    left
    use congrFun same .record
    intro key hkey
    apply hkey
  | admitted same | running same | refused same | issued same | unissued same | dated same
  | found same | unstored same | reread same | recalled same | missed same | unread same =>
    left
    use congrFun same .record
    rintro _ ⟨⟩

/-! ### Keys of the past -/

/-- No evaluation license with the key begins after the day. -/
def StartedBy (r : Registrar) (today : Date) (key : String) : Prop :=
  ∀ d first, Eligibility.registrationOf r.trust key = .ok d → d.kind = .evaluation →
    d.validFrom = some first → first.day ≤ today.day

/-- An evaluation license with the key has ended before the day, or does not end before the day
`n`. -/
def EndedOr (r : Registrar) (today : Date) (n : Int) (key : String) : Prop :=
  ∀ d last, Eligibility.registrationOf r.trust key = .ok d → d.kind = .evaluation →
    d.validTo = some last → last.day < today.day ∨ n ≤ last.day

omit [SignatureScheme] in
/-- An evaluation license that has begun and is not active has ended. -/
theorem StartedBy.endedOr {today : Date} {n : Int} {key : String} (h : r.StartedBy today key)
    (hinactive : r.isActive today key = false) :
  r.EndedOr today n key
  := by
  intro d last hd hkind hlast
  left
  by_contra hnot
  have hstarted : d.validFrom.all (fun first => first ≤ today) = true := by
    cases hfirst : d.validFrom with
    | none => rfl
    | some first => apply decide_eq_true (h d first hd hkind hfirst)
  have hlasts : today ≤ last := Int.not_lt.1 hnot
  rw [isActive, hd] at hinactive
  dsimp only at hinactive
  rw [hkind, decide_eq_true rfl, Bool.true_and, Registration.isValidOn, Date.isWithin, hlast,
    hstarted, Bool.true_and] at hinactive
  cases (decide_eq_true hlasts).symm.trans hinactive

omit [SignatureScheme] in
theorem Begins.endedOr {today first : Date} {n : Int} {key : String} (h : r.Begins key first)
    (hn : n ≤ first.day + r.evaluationDays) :
  r.EndedOr today n key
  := by
  intro d last hd hkind hlast
  obtain ⟨d', last', hd', -, -, hlast', hday⟩ := h.registration
  cases hd.symm.trans hd'
  cases hlast.symm.trans hlast'
  right
  omega

omit [SignatureScheme] in
theorem Begins.startedBy {today first : Date} {key : String} (h : r.Begins key first)
    (hfirst : first.day ≤ today.day) :
  r.StartedBy today key
  := by
  intro d first' hd hkind hfirst'
  obtain ⟨d', last', hd', -, hvalid, -⟩ := h.registration
  cases hd.symm.trans hd'
  cases hfirst'.symm.trans hvalid
  apply hfirst

omit [SignatureScheme] in
theorem Begins.first_le {today first : Date} {key : String} (h : r.Begins key first)
    (hstarted : r.StartedBy today key) :
  first.day ≤ today.day
  := by
  obtain ⟨d, last, hd, hkind, hfirst, -⟩ := h.registration
  apply hstarted d first hd hkind hfirst

omit [SignatureScheme] in
/-- A license that has begun and is not active has ended. -/
theorem Begins.lt_of_inactive {today first : Date} {key : String} (h : r.Begins key first)
    (hstarted : first.day ≤ today.day) (hinactive : r.isActive today key = false) :
  first.day + r.evaluationDays < today.day
  := by
  by_contra hnot
  have hactive : r.isActive today key = true := h.isActive_iff.2 ⟨hstarted, Int.not_lt.1 hnot⟩
  cases hactive.symm.trans hinactive

omit [SignatureScheme] in
/-- When a license is active that does not end before the day `n` unless it has ended, a record
with its key bars new evaluations for that long. -/
theorem EndedOr.bars {today : Date} {n : Int} {key : String} (h : r.EndedOr today n key)
    (hactive : r.isActive today key = true) :
  r.Bars n (some (EvaluationRecord.text ⟨some key⟩))
  := by
  apply bars_text
  intro d last hd hlast
  have hlasts : today.day ≤ last.day := le_of_isActive hactive hd hlast
  have hkind : d.kind = .evaluation := by
    rw [isActive, hd] at hactive
    apply of_decide_eq_true (Bool.and_eq_true_iff.1 hactive).1
  rcases h d last hd hkind hlast with hended | hn
  · omega
  · apply hn

end Registrar

/-! ### Scenes -/

namespace Scene

variable [SignatureScheme]

/-- What is so between the steps of parties that take those from the third on one day each, the
closing day. -/
structure Sound (r : Registrar) (closing : Nat → Date) (today : Date) (s : Scene) : Prop where
  /-- No evaluation in the store begins after the day. -/
  started : ∀ key, s.files.Holds key → r.StartedBy today key
  dated : ∀ (i : Nat) (p : Party), s.parties[i]? = some p → ∀ key day,
    p.phase = .dated key day → day = closing i
  /-- What is to be noted is in the store, and active on the closing day. -/
  entered : ∀ (i : Nat) (p : Party), s.parties[i]? = some p → ∀ outcome key,
    p.phase = .entered outcome → outcome.key? = some key →
      s.files.Holds key ∧ r.isActive (closing i) key = true
  added : ∀ (i : Nat) (p : Party), s.parties[i]? = some p → ∀ key,
    p.phase.addedKey? = some key → s.files.Holds key
  /-- No license in the store that has not ended ends before one that was added. -/
  outlasted : ∀ (i : Nat) (p : Party), s.parties[i]? = some p → ∀ key first,
    p.phase.addedKey? = some key → r.Begins key first → ∀ other, s.files.Holds other →
      r.EndedOr today (first.day + r.evaluationDays) other
  /-- The record bars new evaluations as long as a license that was noted is valid. -/
  noted : ∀ (i : Nat) (p : Party), s.parties[i]? = some p → ∀ key first,
    p.phase = .ended (.ok (.registered key)) → r.Begins key first →
      r.Bars (first.day + r.evaluationDays) s.files.record

/-- The party that is to take a step registers with the settings of the registrar, has issued no
license that is older than half an evaluation, and takes the steps from the third on the closing
day. -/
structure Due (r : Registrar) (closing : Nat → Date) (t : Turn) (p : Party) : Prop where
  options : p.registrar.options = r.options
  issued : ∀ key, p.phase.issuedKey? = some key →
    ∃ first, r.Begins key first ∧ first.day ≤ t.now.day.day ∧
      2 * (t.now.day.day - first.day) ≤ r.evaluationDays
  closing : 2 ≤ p.phase.stepsTaken → t.now.day = closing t.party

variable {r : Registrar} {closing : Nat → Date} {s : Scene} {t : Turn}

omit [SignatureScheme] in
theorem Sound.mono {today later : Date} (h : s.Sound r closing today)
    (hlater : today.day ≤ later.day) :
  s.Sound r closing later
  where
  started key hkey d first hd hkind hfirst := by
    have hstarted := h.started key hkey d first hd hkind hfirst
    omega
  dated := h.dated
  entered := h.entered
  added := h.added
  outlasted i p hp key first hkey hbegins other hother d last hd hkind hlast := by
    have houtlasted := h.outlasted i p hp key first hkey hbegins other hother d last hd hkind hlast
    omega
  noted := h.noted

/-- The step of the party adds the key of a license that was issued not long ago, as none is
active. -/
structure Adds (r : Registrar) (t : Turn) (p : Party) (f f' : Files) (phase : Phase)
    (key : String) (first : Date) : Prop where
  dated : p.phase = .dated key t.now.day
  entered : phase = .entered (.registered key)
  begins : r.Begins key first
  first_le : first.day ≤ t.now.day.day
  span : 2 * (t.now.day.day - first.day) ≤ r.evaluationDays
  inactive : ∀ other, f.Holds other → r.isActive t.now.day other = false
  holds : ∀ other, f'.Holds other ↔ other = key ∨ f.Holds other

section

variable {p : Party} {f : Files} {phase : Phase}

/-- A step leaves the keys in the store as they are, or adds one. -/
theorem Sound.holds (h : s.Sound r closing t.now.day) (hp : s.parties[t.party]? = some p)
    (hdue : Due r closing t p)
    (hmoves : p.registrar.Moves t.now p.guid s.files f p.phase phase) :
  (∀ key, f.Holds key ↔ s.files.Holds key) ∧
      (∀ key, phase.addedKey? = some key → p.phase.addedKey? = some key) ∨
    ∃ key first, Adds r t p s.files f phase key first
  := by
  have hissued : ∀ key, p.phase.issuedKey? = some key → Text.trim key = key ∧ key ≠ "" := by
    intro key hkey
    obtain ⟨first, hbegins, -⟩ := hdue.issued key hkey
    use hbegins.trim, hbegins.ne_empty
  rcases hmoves.holds hissued with hsame | ⟨key, today, hphase, hentered, hinactive, hnew⟩
  · left
    apply hsame
  · right
    have hkey : p.phase.issuedKey? = some key := by
      rw [hphase]
      rfl
    have htaken : 2 ≤ p.phase.stepsTaken := by
      rw [hphase]
      apply Nat.le_succ
    have hday : today = t.now.day := by
      rw [h.dated _ p hp key today hphase, hdue.closing htaken]
    rw [hday] at hphase
    rw [hday, Registrar.isActive_eq p.registrar r] at hinactive
    obtain ⟨first, hbegins, hfirst, hspan⟩ := hdue.issued key hkey
    use key, first, hphase, hentered, hbegins, hfirst, hspan, hinactive

theorem Sound.dated_moves (hdue : Due r closing t p)
    (hmoves : p.registrar.Moves t.now p.guid s.files f p.phase phase) :
  ∀ key day, phase = .dated key day → day = closing t.party
  := by
  rintro key day rfl
  have hclosing := hdue.closing
  generalize p.phase = before at hmoves hclosing
  cases hmoves with
  | dated same => apply hclosing (Nat.le_refl 2)

/-- What a party is to note after a step to the store is in the store, and active. -/
theorem Sound.entered_moves (h : s.Sound r closing t.now.day)
    (hp : s.parties[t.party]? = some p) (hdue : Due r closing t p)
    (hmoves : p.registrar.Moves t.now p.guid s.files f p.phase phase) :
  ∀ outcome key, phase = .entered outcome → outcome.key? = some key →
    f.Holds key ∧ r.isActive (closing t.party) key = true
  := by
  rintro outcome key rfl hkey
  have hclosing := hdue.closing
  have hdated := h.dated _ p hp
  rcases h.holds hp hdue hmoves with ⟨hsame, hadded⟩ | ⟨new, first, hadds⟩
  · generalize p.phase = before at hmoves hclosing hdated hadded
    cases hmoves with
    | @found issued other today c same loaded active =>
      cases hkey
      obtain ⟨hmem, hactive⟩ := Registrar.isActive_of_findActive? active
      rw [hsame, Files.holds_iff loaded, ← hdated issued today rfl,
        Registrar.isActive_eq r p.registrar]
      use hmem
    | @added new => cases hadded new rfl
  · cases hadds.entered
    cases hkey
    have htaken : 2 ≤ p.phase.stepsTaken := by
      rw [hadds.dated]
      apply Nat.le_succ
    use (hadds.holds key).2 (.inl rfl)
    rw [← hclosing htaken]
    have hspan := hadds.span
    apply hadds.begins.isActive_iff.2
    use hadds.first_le
    omega

/-- What the store held before a step it holds after it. -/
theorem Sound.holds_of_holds (h : s.Sound r closing t.now.day)
    (hp : s.parties[t.party]? = some p) (hdue : Due r closing t p)
    (hmoves : p.registrar.Moves t.now p.guid s.files f p.phase phase) {key : String}
    (hkey : s.files.Holds key) :
  f.Holds key
  := by
  rcases h.holds hp hdue hmoves with ⟨hsame, -⟩ | ⟨new, first, hadds⟩
  · apply (hsame key).2 hkey
  · apply (hadds.holds key).2 (.inr hkey)

theorem Sound.started_moves (h : s.Sound r closing t.now.day)
    (hp : s.parties[t.party]? = some p) (hdue : Due r closing t p)
    (hmoves : p.registrar.Moves t.now p.guid s.files f p.phase phase) :
  ∀ key, f.Holds key → r.StartedBy t.now.day key
  := by
  intro key hkey
  rcases h.holds hp hdue hmoves with ⟨hsame, -⟩ | ⟨new, first, hadds⟩
  · apply h.started key ((hsame key).1 hkey)
  · rcases (hadds.holds key).1 hkey with rfl | hold
    · apply hadds.begins.startedBy hadds.first_le
    · apply h.started key hold

theorem Sound.added_moves (h : s.Sound r closing t.now.day)
    (hp : s.parties[t.party]? = some p) (hdue : Due r closing t p)
    (hmoves : p.registrar.Moves t.now p.guid s.files f p.phase phase) :
  ∀ key, phase.addedKey? = some key → f.Holds key
  := by
  intro key hkey
  rcases h.holds hp hdue hmoves with ⟨hsame, hadded⟩ | ⟨new, first, hadds⟩
  · apply (hsame key).2 (h.added _ p hp key (hadded key hkey))
  · cases hadds.entered
    cases hkey
    apply (hadds.holds key).2 (.inl rfl)

/-- A license that is added does not end before those that were added before, for it was issued
not long ago and those have ended. -/
theorem Sound.outlasted_of_holds (h : s.Sound r closing t.now.day)
    (hp : s.parties[t.party]? = some p) (hdue : Due r closing t p)
    (hmoves : p.registrar.Moves t.now p.guid s.files f p.phase phase) {key : String}
    {first : Date} (hkey : s.files.Holds key) (hbegins : r.Begins key first)
    (houtlasted : ∀ other, s.files.Holds other →
      r.EndedOr t.now.day (first.day + r.evaluationDays) other) :
  ∀ other, f.Holds other → r.EndedOr t.now.day (first.day + r.evaluationDays) other
  := by
  intro other hother
  rcases h.holds hp hdue hmoves with ⟨hsame, -⟩ | ⟨new, first', hadds⟩
  · apply houtlasted other ((hsame other).1 hother)
  · rcases (hadds.holds other).1 hother with rfl | hold
    · have hstarted := hbegins.first_le (h.started key hkey)
      have hended := hbegins.lt_of_inactive hstarted (hadds.inactive key hkey)
      have hspan := hadds.span
      apply hadds.begins.endedOr
      omega
    · apply houtlasted other hold

theorem Sound.outlasted_moves (h : s.Sound r closing t.now.day)
    (hp : s.parties[t.party]? = some p) (hdue : Due r closing t p)
    (hmoves : p.registrar.Moves t.now p.guid s.files f p.phase phase) :
  ∀ key first, phase.addedKey? = some key → r.Begins key first → ∀ other, f.Holds other →
    r.EndedOr t.now.day (first.day + r.evaluationDays) other
  := by
  intro key first hkey hbegins
  rcases h.holds hp hdue hmoves with ⟨-, hadded⟩ | ⟨new, first', hadds⟩
  · have hbefore := hadded key hkey
    apply h.outlasted_of_holds hp hdue hmoves (h.added _ p hp key hbefore) hbegins
    apply h.outlasted _ p hp key first hbefore hbegins
  · cases hadds.entered
    cases hkey
    intro other hother
    rcases (hadds.holds other).1 hother with rfl | hold
    · apply hbegins.endedOr (Int.le_refl _)
    · apply (h.started other hold).endedOr (hadds.inactive other hold)

/-- What is noted is active, so the record keeps barring new evaluations. -/
theorem Sound.noted_moves (h : s.Sound r closing t.now.day)
    (hp : s.parties[t.party]? = some p) (hdue : Due r closing t p)
    (hmoves : p.registrar.Moves t.now p.guid s.files f p.phase phase) :
  (∀ (i : Nat) (q : Party), s.parties[i]? = some q → ∀ key first,
      q.phase = .ended (.ok (.registered key)) → r.Begins key first →
        r.Bars (first.day + r.evaluationDays) f.record) ∧
    ∀ key first, phase = .ended (.ok (.registered key)) → r.Begins key first →
      r.Bars (first.day + r.evaluationDays) f.record
  := by
  rcases hmoves.record with ⟨hsame, hbefore⟩ | ⟨outcome, noted, hphase, hended, hnoted, hrecord⟩
  · rw [hsame]
    use h.noted
    intro key first hkey
    apply h.noted _ p hp key first (hbefore key hkey)
  · obtain ⟨hholds, hactive⟩ := h.entered _ p hp outcome noted hphase hnoted
    have htaken : 2 ≤ p.phase.stepsTaken := by
      rw [hphase]
      simp [Phase.stepsTaken]
    rw [← hdue.closing htaken] at hactive
    have hbars (i : Nat) (q : Party) (hq : s.parties[i]? = some q) (key : String) (first : Date)
        (hkey : q.phase.addedKey? = some key) (hbegins : r.Begins key first) :
        r.Bars (first.day + r.evaluationDays) f.record := by
      rw [hrecord]
      apply (h.outlasted i q hq key first hkey hbegins noted hholds).bars hactive
    constructor
    · intro i q hq key first hkey
      apply hbars i q hq
      rw [hkey]
      rfl
    · intro key first hkey
      apply hbars _ p hp
      rw [hkey] at hended
      cases hended
      rw [hphase]
      rfl

end

theorem Sound.turn (h : s.Sound r closing t.now.day) (hcalm : s.files.Calm)
    (hdue : ∀ p, s.parties[t.party]? = some p → Due r closing t p) :
  (s.turn t).Sound r closing t.now.day
  := by
  rcases s.turn_cases t hcalm with ⟨-, hturn⟩ | ⟨p, phase, f, hp, -, hmoves, hturn⟩
  · rw [hturn]
    apply h
  · have hdue' := hdue p hp
    rw [hturn]
    constructor
    · apply h.started_moves hp hdue' hmoves
    · apply forall_getElem?_set fun i q _ => h.dated i q
      apply Sound.dated_moves hdue' hmoves
    · apply forall_getElem?_set
      · intro i q _ hq outcome key hphase hkey
        obtain ⟨hholds, hactive⟩ := h.entered i q hq outcome key hphase hkey
        use h.holds_of_holds hp hdue' hmoves hholds
      · apply h.entered_moves hp hdue' hmoves
    · apply forall_getElem?_set
      · intro i q _ hq key hkey
        apply h.holds_of_holds hp hdue' hmoves (h.added i q hq key hkey)
      · apply h.added_moves hp hdue' hmoves
    · apply forall_getElem?_set
      · intro i q _ hq key first hkey hbegins
        apply h.outlasted_of_holds hp hdue' hmoves (h.added i q hq key hkey) hbegins
        apply h.outlasted i q hq key first hkey hbegins
      · apply h.outlasted_moves hp hdue' hmoves
    · apply forall_getElem?_set
      · intro i q _ hq
        apply (h.noted_moves hp hdue' hmoves).1 i q hq
      · apply (h.noted_moves hp hdue' hmoves).2

/-! ### Runs -/

theorem stepsTaken_run {ts : List Turn} {i : Nat} {p q : Party} (hcalm : s.files.Calm)
    (hp : s.parties[i]? = some p) (hq : (s.run ts).parties[i]? = some q) :
  q.phase.stepsTaken ≤ p.phase.stepsTaken + ts.countP fun t => t.party = i
  := by
  induction ts generalizing s p with
  | nil =>
    cases hp.symm.trans hq
    apply Nat.le_refl
  | cons t ts ih =>
    rw [List.countP_cons]
    by_cases hi : t.party = i
    · obtain ⟨phase, hturn, hmoves⟩ := moves_turn hcalm (hi ▸ hp)
      have hrest := ih (calm_turn hcalm t) (hi ▸ hturn) hq
      have hstep := hmoves.stepsTaken
      rw [if_pos (decide_eq_true hi)]
      dsimp only at hrest
      omega
    · have hrest := ih (calm_turn hcalm t) ((parties_turn_of_ne hi).trans hp) hq
      omega

/-- What a party has added to the store, it has added for good. -/
theorem addedKey?_run {ts : List Turn} {i : Nat} {p q : Party} {key : String}
    (hcalm : s.files.Calm) (hp : s.parties[i]? = some p) (hkey : p.phase.addedKey? = some key)
    (hq : (s.run ts).parties[i]? = some q) :
  q.phase.addedKey? = some key
  := by
  by_contra hnot
  obtain ⟨us, t, vs, p', phase, -, -, -, hbefore, -, hafter, hmoves⟩ :=
    exists_moves (P := fun phase => phase.addedKey? ≠ some key) hcalm hp (not_not.2 hkey) hq hnot
  apply hafter
  have hbefore := not_not.1 hbefore
  generalize p'.phase = before at hmoves hbefore
  cases hmoves with
  | @noted outcome store record =>
    cases outcome with
    | registered other => apply hbefore
    | alreadyRegistered other | ineligible e => cases hbefore
  | rest same => apply hbefore
  | admitted | running | refused | issued | unissued | dated | found | added | unstored | reread
  | recalled | missed | unread => cases hbefore

theorem Ready.options_run (h : s.Ready r) {ts : List Turn} {i : Nat} {q : Party}
    (hq : (s.run ts).parties[i]? = some q) :
  q.registrar.options = r.options
  := by
  obtain ⟨p, phase, hp, rfl⟩ := s.run_party ts hq
  apply h.options p (List.mem_of_getElem? hp)

/-- A license of a party begins on the day of one of the steps that it has taken since it
began. -/
theorem Ready.exists_begins (h : s.Ready r) (us : List Turn) {vs : List Turn} {i : Nat}
    {p q : Party} {key : String} (hp : (s.run us).parties[i]? = some p) (hbegun : p.phase = .begun)
    (hq : (s.run (us ++ vs)).parties[i]? = some q) (hkey : q.phase.issuedKey? = some key) :
  ∃ t ∈ vs, t.party = i ∧ r.Begins key t.now.day
  := by
  have hbefore : ¬ p.phase.issuedKey? = some key := by
    rw [hbegun]
    rintro ⟨⟩
  rw [run_append] at hq
  obtain ⟨us', t, vs', p', phase, rfl, hi, hp', hnot, -, hafter, hmoves⟩ :=
    exists_moves (P := fun phase => phase.issuedKey? = some key) (calm_run h.calm us) hp hbefore
      hq hkey
  use t, List.mem_append_right us' List.mem_cons_self, hi
  rw [← run_append] at hp'
  rcases hmoves.issuedKey? hafter with hissued | hissued
  · cases hnot hissued
  · apply Registrar.begins_of_issue (h.options_run hp') hissued

/-- The clock does not go back, no party takes its steps over more than half an evaluation, and
each takes those from the third on one day, which is the day it reads for the store. -/
structure Timely (r : Registrar) (ts : List Turn) : Prop where
  forward : ts.Pairwise fun t u => t.now.day.day ≤ u.now.day.day
  span : ∀ t ∈ ts, ∀ u ∈ ts, t.party = u.party →
    2 * (u.now.day.day - t.now.day.day) ≤ r.evaluationDays
  prompt : ∀ t ∈ ts, ((ts.filter fun u => u.party = t.party).drop 2).Pairwise fun u v =>
    u.now.day = v.now.day

omit [SignatureScheme] in
theorem Timely.le_of_mem {ts us vs : List Turn} (h : Timely r ts) (hts : ts = us ++ t :: vs)
    {u : Turn} (hu : u ∈ t :: vs) :
  t.now.day.day ≤ u.now.day.day
  := by
  have hforward := h.forward
  rw [hts] at hforward
  rcases List.mem_cons.1 hu with rfl | hu
  · apply Int.le_refl
  · apply List.rel_of_pairwise_cons (List.pairwise_append.1 hforward).2.1 hu

omit [SignatureScheme] in
theorem Timely.exists_closing {ts : List Turn} (h : Timely r ts) :
  ∃ closing : Nat → Date, ∀ i, ∀ t ∈ (ts.filter fun t => t.party = i).drop 2,
    t.now.day = closing i
  := by
  have hday (i : Nat) : ∃ day, ∀ t ∈ (ts.filter fun t => t.party = i).drop 2,
      t.now.day = day := by
    cases hsteps : (ts.filter fun t => t.party = i).drop 2 with
    | nil =>
      use .keyEpoch
      rintro _ ⟨⟩
    | cons u us =>
      have hu : u ∈ ts.filter fun t => t.party = i := by
        apply List.mem_of_mem_drop (i := 2)
        rw [hsteps]
        apply List.mem_cons_self
      obtain ⟨hmem, hi⟩ := List.mem_filter.1 hu
      have hprompt := h.prompt u hmem
      rw [of_decide_eq_true hi, hsteps] at hprompt
      use u.now.day
      intro t ht
      rcases List.mem_cons.1 ht with rfl | ht
      · rfl
      · exact (List.rel_of_pairwise_cons hprompt ht).symm
  choose closing hclosing using hday
  use closing

section

variable {ts us vs : List Turn}

theorem due_run (hready : s.Ready r) (htimely : Timely r ts)
    (hclosing : ∀ i, ∀ t ∈ (ts.filter fun t => t.party = i).drop 2, t.now.day = closing i)
    (hts : ts = us ++ t :: vs) {q : Party} (hq : (s.run us).parties[t.party]? = some q) :
  Due r closing t q
  := by
  obtain ⟨p, phase, hp, rfl⟩ := s.run_party us hq
  have hmem := List.mem_of_getElem? hp
  have hoptions := hready.options p hmem
  have hbegun := hready.begun p hmem
  constructor
  · apply hoptions
  · intro key hkey
    obtain ⟨u, hu, hparty, hbegins⟩ := hready.exists_begins [] hp hbegun hq hkey
    have hforward := htimely.forward
    rw [hts] at hforward
    use u.now.day, hbegins
    constructor
    · apply (List.pairwise_append.1 hforward).2.2 u hu t List.mem_cons_self
    · apply htimely.span u _ t _ hparty
      · rw [hts]
        apply List.mem_append_left _ hu
      · rw [hts]
        apply List.mem_append_right _ List.mem_cons_self
  · intro htaken
    have hcount := stepsTaken_run hready.calm hp hq
    rw [hbegun] at hcount
    apply hclosing
    have hfilter : (t :: vs).filter (fun u => u.party = t.party) =
        t :: vs.filter fun u => u.party = t.party :=
      List.filter_cons_of_pos (decide_eq_true rfl)
    rw [hts, List.filter_append, hfilter, List.drop_append_of_le_length]
    · apply List.mem_append_right _ List.mem_cons_self
    · rw [← List.countP_eq_length_filter]
      apply Nat.le_trans htaken
      apply Nat.le_trans hcount
      rw [Phase.stepsTaken, Nat.zero_add]

theorem sound_run (hready : s.Ready r) (htimely : Timely r ts)
    (hclosing : ∀ i, ∀ t ∈ (ts.filter fun t => t.party = i).drop 2, t.now.day = closing i)
    (hstarted : ∀ key, s.files.Holds key → ∀ t ∈ ts, r.StartedBy t.now.day key)
    (hts : ts = us ++ t :: vs) :
  (s.run us).Sound r closing t.now.day
  := by
  induction us using List.reverseRecOn generalizing t vs with
  | nil =>
    have hbegun (i : Nat) (p : Party) (hp : s.parties[i]? = some p) : p.phase = .begun :=
      hready.begun p (List.mem_of_getElem? hp)
    have ht : t ∈ ts := by
      rw [hts]
      apply List.mem_append_right _ List.mem_cons_self
    constructor
    · intro key hkey
      apply hstarted key hkey t ht
    · intro i p hp key day hphase
      cases (hbegun i p hp).symm.trans hphase
    · intro i p hp outcome key hphase
      cases (hbegun i p hp).symm.trans hphase
    · intro i p hp key hkey
      rw [hbegun i p hp] at hkey
      cases hkey
    · intro i p hp key first hkey
      rw [hbegun i p hp] at hkey
      cases hkey
    · intro i p hp key first hphase
      cases (hbegun i p hp).symm.trans hphase
  | append_singleton us u ih =>
    have hts' : ts = us ++ u :: (t :: vs) := by
      rw [hts, List.append_assoc]
      rfl
    have hforward := htimely.forward
    rw [hts'] at hforward
    have hlater : u.now.day.day ≤ t.now.day.day :=
      List.rel_of_pairwise_cons (List.pairwise_append.1 hforward).2.1 List.mem_cons_self
    rw [run_concat]
    have hturn : ((s.run us).turn u).Sound r closing u.now.day :=
      (ih hts').turn (calm_run hready.calm us) fun p hp =>
        due_run hready htimely hclosing hts' hp
    apply hturn.mono hlater

/-- A party that has come on the way to the store was admitted by one of its steps. -/
theorem exists_admitted (hready : s.Ready r) {j : Nat} {q : Party}
    (hq : (s.run us).parties[j]? = some q) (htaken : q.phase.stepsTaken ≠ 0) :
  ∃ us' t' vs' q', us = us' ++ t' :: vs' ∧ t'.party = j ∧
    (s.run us').parties[j]? = some q' ∧ q'.phase = .begun ∧
    r.judgement t'.now.day (s.run us').files.record = .eligible
  := by
  obtain ⟨q₀, phase, hq₀, -⟩ := s.run_party us hq
  have hbefore : ¬ q₀.phase.stepsTaken ≠ 0 := by
    rw [hready.begun q₀ (List.mem_of_getElem? hq₀)]
    exact not_not.2 rfl
  obtain ⟨us', t', vs', q', phase', rfl, hj, hq', hnot, -, hafter, hmoves⟩ :=
    exists_moves (P := fun phase => phase.stepsTaken ≠ 0) hready.calm hq₀ hbefore hq htaken
  obtain ⟨hphase, hjudged⟩ := hmoves.judged (not_not.1 hnot) hafter
  rw [Registrar.judgement_eq (hready.options_run hq')] at hjudged
  use us', t', vs', q', rfl, hj, hq', hphase

/-- A party that is admitted after the last step of one that has added and noted a license begins
after the waiting time behind that one. -/
theorem lt_of_admitted (hready : s.Ready r) (htimely : Timely r ts)
    (hstarted : ∀ key, s.files.Holds key → ∀ t ∈ ts, r.StartedBy t.now.day key)
    (hts : ts = us ++ t :: vs) (hjudged : r.judgement t.now.day (s.run us).files.record = .eligible)
    {i : Nat} {p : Party} {key : String} {first : Date} (hover : ∀ u ∈ t :: vs, u.party ≠ i)
    (hp : (s.run ts).parties[i]? = some p) (hend : p.phase = .ended (.ok (.registered key)))
    (hbegins : r.Begins key first) :
  first.day + r.evaluationDays + r.cooldownDays < t.now.day.day
  := by
  obtain ⟨closing, hclosing⟩ := htimely.exists_closing
  rw [hts, run_append, parties_run_of_forall_ne hover] at hp
  obtain ⟨text, htext, hbars⟩ :=
    (sound_run hready htimely hclosing hstarted hts).noted i p hp key first hend hbegins
  rw [htext] at hjudged
  apply hbars t.now.day hjudged

omit [SignatureScheme] in
/-- When a party takes a step more than an evaluation after one of another party, that other one
is over before the party takes its first step. -/
theorem Timely.party_ne {t' u : Turn} (h : Timely r ts) (hts : ts = us ++ t' :: vs) (hu : u ∈ ts)
    (ht : t ∈ t' :: vs) (hparty : t'.party = t.party)
    (hended : u.now.day.day + r.evaluationDays < t.now.day.day) :
  ∀ w ∈ t' :: vs, w.party ≠ u.party
  := by
  have hmem : ∀ w ∈ t' :: vs, w ∈ ts := by
    rw [hts]
    apply List.subset_append_right
  intro w hw hwu
  have hlater := h.le_of_mem hts hw
  have hspan := h.span u hu w (hmem w hw) hwu.symm
  have hspan' := h.span t' (hmem t' List.mem_cons_self) t (hmem t ht) hparty
  omega

/-- A license that is added after another one was added, and noted in the end, begins after the
waiting time behind that one. For the other license has ended then, and a party takes its steps
in less time than a license is valid, so it began after the last step of the other party. -/
theorem lt_of_added_before (hready : s.Ready r) (htimely : Timely r ts)
    (hstarted : ∀ key, s.files.Holds key → ∀ t ∈ ts, r.StartedBy t.now.day key)
    (hts : ts = us ++ t :: vs) {i : Nat} {key key' : String} {p q p' : Party} {phase : Phase}
    (hp : (s.run us).parties[i]? = some p) (hkey : p.phase.addedKey? = some key)
    (hq : (s.run us).parties[t.party]? = some q) (hbefore : q.phase.addedKey? ≠ some key')
    (hmoves : q.registrar.Moves t.now q.guid (s.run us).files ((s.run us).turn t).files q.phase
      phase)
    (hafter : phase.addedKey? = some key')
    (hp' : (s.run ts).parties[i]? = some p') (hend : p'.phase = .ended (.ok (.registered key))) :
  ∃ first first', r.Begins key first ∧ r.Begins key' first' ∧
    first.day + r.evaluationDays + r.cooldownDays < first'.day
  := by
  obtain ⟨closing, hclosing⟩ := htimely.exists_closing
  have hsound := sound_run hready htimely hclosing hstarted hts
  rcases hsound.holds hq (due_run hready htimely hclosing hts hq) hmoves with
    ⟨-, hadded⟩ | ⟨new, first', hadds⟩
  · cases hbefore (hadded key' hafter)
  · cases hadds.entered
    cases hafter
    obtain ⟨p₀, _, hp₀, -⟩ := s.run_party us hp
    obtain ⟨u, hu, hui, hbegins⟩ := hready.exists_begins [] hp₀
      (hready.begun p₀ (List.mem_of_getElem? hp₀)) hp (Phase.issuedKey?_of_addedKey? hkey)
    have hheld := hsound.added i p hp key hkey
    have hended := hbegins.lt_of_inactive (hbegins.first_le (hsound.started key hheld))
      (hadds.inactive key hheld)
    have htaken : q.phase.stepsTaken ≠ 0 := by
      rw [hadds.dated]
      apply Nat.succ_ne_zero
    obtain ⟨us', t', vs', q', rfl, ht', hq', hphase, hjudged⟩ := exists_admitted hready hq htaken
    have hts' : ts = us' ++ t' :: (vs' ++ t :: vs) := by
      rw [hts, List.append_assoc]
      rfl
    have hu' : u ∈ ts := by
      rw [hts]
      apply List.mem_append_left _ hu
    have ht : t ∈ t' :: (vs' ++ t :: vs) :=
      List.mem_cons_of_mem _ (List.mem_append_right _ List.mem_cons_self)
    have hover := htimely.party_ne hts' hu' ht ht' hended
    rw [hui] at hover
    have hwaited := lt_of_admitted hready htimely hstarted hts' hjudged hover hp' hend hbegins
    have hissued : q.phase.issuedKey? = some key' := by
      rw [hadds.dated]
      rfl
    obtain ⟨w, hw, -, hbegins'⟩ := hready.exists_begins us' hq' hphase hq hissued
    have hlater : t'.now.day.day ≤ w.now.day.day := by
      apply htimely.le_of_mem hts'
      apply List.mem_append_left (t :: vs) hw
    use u.now.day, w.now.day, hbegins, hbegins'
    omega

end

/-- Of two licenses that parties have added, and noted in the end, one begins after the last day
of the other one and the waiting time behind it. -/
theorem begins_apart {ts : List Turn} (hready : s.Ready r) (htimely : Timely r ts)
    (hstarted : ∀ key, s.files.Holds key → ∀ t ∈ ts, r.StartedBy t.now.day key) {i j : Nat}
    (hij : i ≠ j) {p q : Party} {key key' : String} (hp : (s.run ts).parties[i]? = some p)
    (hend : p.phase = .ended (.ok (.registered key))) (hq : (s.run ts).parties[j]? = some q)
    (hend' : q.phase = .ended (.ok (.registered key'))) :
  ∃ first first', r.Begins key first ∧ r.Begins key' first' ∧
    (first.day + r.evaluationDays + r.cooldownDays < first'.day ∨
      first'.day + r.evaluationDays + r.cooldownDays < first.day)
  := by
  have hnone (q : Party) (hq : q ∈ s.parties) (key : String) :
      ¬ q.phase.addedKey? = some key := by
    rw [hready.begun q hq]
    rintro ⟨⟩
  obtain ⟨p₀, _, hp₀, -⟩ := s.run_party ts hp
  obtain ⟨q₀, _, hq₀, -⟩ := s.run_party ts hq
  obtain ⟨us, t, vs, q₁, phase, hts, rfl, hq₁, hbefore, hturn, hafter, hmoves⟩ :=
    exists_moves (P := fun phase => phase.addedKey? = some key') hready.calm hq₀
      (hnone q₀ (List.mem_of_getElem? hq₀) key') hq (by rw [hend']; rfl)
  obtain ⟨p₁, hp₁, -⟩ := stepsLeft_run s us hp₀
  by_cases hadded : p₁.phase.addedKey? = some key
  · obtain ⟨first, first', hbegins, hbegins', hlt⟩ := lt_of_added_before hready htimely hstarted
      hts hp₁ hadded hq₁ hbefore hmoves hafter hp hend
    use first, first', hbegins, hbegins', .inl hlt
  · have hp₂ : ((s.run us).turn t).parties[i]? = some p₁ :=
      (parties_turn_of_ne (Ne.symm hij)).trans hp₁
    have hcalm := calm_turn (calm_run hready.calm us) t
    rw [hts, run_append, run_cons] at hp
    obtain ⟨us', t', vs', p₃, phase', rfl, rfl, hp₃, hbefore', -, hafter', hmoves'⟩ :=
      exists_moves (P := fun phase => phase.addedKey? = some key) hcalm hp₂ hadded hp
        (by rw [hend]; rfl)
    obtain ⟨q₃, hq₃, -⟩ := stepsLeft_run ((s.run us).turn t) us' hturn
    have hkept := addedKey?_run hcalm hturn hafter hq₃
    rw [← run_cons, ← run_append] at hp₃ hq₃ hmoves'
    have hts' : ts = (us ++ t :: us') ++ t' :: vs' := by
      rw [hts, List.append_assoc]
      rfl
    obtain ⟨first', first, hbegins', hbegins, hlt⟩ := lt_of_added_before hready htimely hstarted
      hts' hq₃ hkept hp₃ hbefore' hmoves' hafter' hq hend'
    use first, first', hbegins, hbegins', .inr hlt

/-- Licenses that two parties have added, and noted in the end, lie apart: one of them begins
after the last day of the other one and the waiting time behind it. -/
theorem windows_apart {ts : List Turn} (hready : s.Ready r) (htimely : Timely r ts)
    (hstarted : ∀ key, s.files.Holds key → ∀ t ∈ ts, r.StartedBy t.now.day key) {i j : Nat}
    (hij : i ≠ j) {p q : Party} {key key' : String} (hp : (s.run ts).parties[i]? = some p)
    (hend : p.phase = .ended (.ok (.registered key))) (hq : (s.run ts).parties[j]? = some q)
    (hend' : q.phase = .ended (.ok (.registered key'))) :
  ∃ d d' first first' last last',
    Eligibility.registrationOf r.trust key = .ok d ∧ d.validFrom = some first ∧
    d.validTo = some last ∧ Eligibility.registrationOf r.trust key' = .ok d' ∧
    d'.validFrom = some first' ∧ d'.validTo = some last' ∧
    (last.day + r.cooldownDays < first'.day ∨ last'.day + r.cooldownDays < first.day)
  := by
  obtain ⟨first, first', hbegins, hbegins', hapart⟩ :=
    begins_apart hready htimely hstarted hij hp hend hq hend'
  obtain ⟨d, last, hd, -, hfirst, hlast, hday⟩ := hbegins.registration
  obtain ⟨d', last', hd', -, hfirst', hlast', hday'⟩ := hbegins'.registration
  rw [← hday, ← hday'] at hapart
  use d, d', first, first', last, last', hd, hfirst, hlast, hd', hfirst', hlast'

end Scene

/-! ### Two windows -/

theorem holds_empty {f : Files} {key : String} (h : f.store = none) :
  ¬ f.Holds key
  := by
  rintro ⟨c, hc, hkey⟩
  rw [h] at hc
  cases hc
  cases hkey

/-- A key in the store that is not active is not found. -/
theorem Registrar.findActive?_eq_none_of_added {r : Registrar} {today : Date} {key : String}
    {c c' : Configuration} (hkeys : ∀ other, other ∈ c'.keys ↔ other = key ∨ other ∈ c.keys)
    (hkey : r.isActive today key = false) (hinactive : r.findActive? today c = none) :
  r.findActive? today c' = none
  := by
  apply List.find?_eq_none.2
  intro other hother
  rcases (hkeys other).1 hother with rfl | hold
  · rw [hkey]
    exact Bool.false_ne_true
  · apply List.find?_eq_none.1 hinactive other hold

/-- What two parties have come to, of which each has added a license. -/
def registeredParties (key key' : String) : List Party :=
  [{ trialParty 1 with phase := .ended (.ok (.registered key)) },
    { trialParty 2 with phase := .ended (.ok (.registered key')) }]

/-- Steps of two parties, the second of which begins after the waiting time. The first one takes
two days. -/
def apartTurns : List Turn :=
  [⟨0, Date.keyEpoch.start⟩, ⟨0, Date.keyEpoch.start⟩, ⟨0, secondDay.start⟩,
    ⟨0, secondDay.start⟩, ⟨0, secondDay.start⟩] ++
  List.replicate 5 ⟨1, trialReopening.start⟩

theorem timely_apartTurns :
  Scene.Timely trialRegistrar apartTurns
  where
  forward := by decide
  span := by decide
  prompt := by decide

/-- Both parties add a license. -/
theorem exists_run_apartTurns :
  ∃ key key', (trialScene.run apartTurns).parties = registeredParties key key'
  := by
  obtain ⟨key, hkey⟩ := exists_issue_trialParty (trialParty 1) List.mem_cons_self .keyEpoch
    List.mem_cons_self
  obtain ⟨key', hkey'⟩ := exists_issue_trialParty (trialParty 2)
    (List.mem_cons_of_mem _ List.mem_cons_self) trialReopening
    (List.mem_cons_of_mem _ (List.mem_cons_of_mem _ List.mem_cons_self))
  have hbegins : trialRegistrar.Begins key .keyEpoch := Registrar.begins_of_issue rfl hkey
  have hnone : Configuration.ofContents? none = some {} := rfl
  obtain ⟨c, hc, hkeys⟩ := Configuration.exists_ofContents?_add hnone hbegins.trim
    hbegins.ne_empty
  have hfirst : 0 < trialScene.parties.length := by decide
  obtain ⟨f, hrun, hcalm, hstore, hrecord⟩ := Scene.run_registered Date.keyEpoch.start
    Date.keyEpoch.start secondDay.start secondDay.start secondDay.start hfirst
    ready_trialScene.calm rfl rfl hkey hnone rfl
  rw [← hstore] at hc
  have hjudged : trialRegistrar.judgement trialReopening f.record = .eligible := by
    let after : Date := ⟨Date.keyEpoch.day + 45 + 120, by decide, by decide⟩
    have hafter : after.day = Date.keyEpoch.start.day.day + trialRegistrar.evaluationDays +
        trialRegistrar.cooldownDays := by
      decide
    have hlater : after < trialReopening := by
      decide
    rw [hrecord]
    apply Registrar.ofRecord_of_issue hkey hafter hlater
  have hended : trialRegistrar.isActive trialReopening key = false := by
    apply Bool.eq_false_iff.2
    rw [Ne, hbegins.isActive_iff]
    decide
  have hinactive : trialRegistrar.findActive? trialReopening c = none :=
    Registrar.findActive?_eq_none_of_added hkeys hended rfl
  have hsecond : 1 < (trialScene.parties.set 0
      ⟨trialRegistrar, (trialParty 1).guid, .ended (.ok (.registered key))⟩).length :=
    Nat.lt_succ_self 1
  obtain ⟨f', hrun', -⟩ := Scene.run_registered trialReopening.start trialReopening.start
    trialReopening.start trialReopening.start trialReopening.start hsecond hcalm rfl hjudged
    hkey' hc hinactive
  use key, key'
  have hsplit : trialScene.run apartTurns = _ :=
    (Scene.run_append _ _ _).trans ((congrArg (fun s => Scene.run s _) hrun).trans hrun')
  rw [hsplit]
  rfl

theorem Scene.windows_apart_reopening :
  ∃ key key', (trialScene.run apartTurns).parties = registeredParties key key' ∧
    ∃ d d' first first' last last',
      Eligibility.registrationOf trialRegistrar.trust key = .ok d ∧ d.validFrom = some first ∧
      d.validTo = some last ∧ Eligibility.registrationOf trialRegistrar.trust key' = .ok d' ∧
      d'.validFrom = some first' ∧ d'.validTo = some last' ∧
      (last.day + trialRegistrar.cooldownDays < first'.day ∨
        last'.day + trialRegistrar.cooldownDays < first.day)
  := by
  obtain ⟨key, key', hparties⟩ := exists_run_apartTurns
  have hstarted : ∀ key, trialScene.files.Holds key → ∀ t ∈ apartTurns,
      trialRegistrar.StartedBy t.now.day key := by
    intro key hkey
    cases holds_empty rfl hkey
  use key, key', hparties
  apply Scene.windows_apart ready_trialScene timely_apartTurns hstarted Nat.zero_ne_one
    (by rw [hparties]; rfl) rfl (by rw [hparties]; rfl) rfl

/-- Steps of two parties. The second one reads the day for the store, and before it has the lock
of the store the day changes and the first one registers. -/
def overlapTurns : List Turn :=
  List.replicate 3 ⟨1, Date.keyEpoch.start⟩ ++ (List.replicate 5 ⟨0, secondDay.start⟩ ++
    List.replicate 2 ⟨1, secondDay.start⟩)

/-- Both parties add a license, one that begins on the second day and one that begins on the
first day. -/
theorem exists_run_overlapTurns :
  ∃ key key', (trialScene.run overlapTurns).parties = registeredParties key key' ∧
    trialRegistrar.Begins key secondDay ∧ trialRegistrar.Begins key' .keyEpoch
  := by
  obtain ⟨key, hkey⟩ := exists_issue_trialParty (trialParty 1) List.mem_cons_self secondDay
    (List.mem_cons_of_mem _ List.mem_cons_self)
  obtain ⟨key', hkey'⟩ := exists_issue_trialParty (trialParty 2)
    (List.mem_cons_of_mem _ List.mem_cons_self) .keyEpoch List.mem_cons_self
  have hbegins : trialRegistrar.Begins key secondDay := Registrar.begins_of_issue rfl hkey
  have hbegins' : trialRegistrar.Begins key' .keyEpoch := Registrar.begins_of_issue rfl hkey'
  have hnone : Configuration.ofContents? none = some {} := rfl
  obtain ⟨c, hc, hkeys⟩ := Configuration.exists_ofContents?_add hnone hbegins.trim
    hbegins.ne_empty
  -- the second party reads the day
  have hsecond : 1 < trialScene.parties.length := by decide
  obtain ⟨n, hdated⟩ := Scene.run_dated Date.keyEpoch.start Date.keyEpoch.start
    Date.keyEpoch.start hsecond ready_trialScene.calm rfl hkey'
  -- on the next day the first party registers
  have hfirst : 0 < (trialScene.parties.set 1
      ⟨trialRegistrar, (trialParty 2).guid, .dated key' .keyEpoch⟩).length :=
    Nat.zero_lt_succ 1
  obtain ⟨f, hregistered, hcalm, hstore, -⟩ := Scene.run_registered secondDay.start
    secondDay.start secondDay.start secondDay.start secondDay.start hfirst
    (ready_trialScene.calm.reads n) rfl rfl hkey hnone rfl
  rw [← hstore] at hc
  -- the second party looks for licenses of the day before
  have hearly : trialRegistrar.isActive .keyEpoch key = false := by
    apply Bool.eq_false_iff.2
    rw [Ne, hbegins.isActive_iff]
    decide
  have hinactive : trialRegistrar.findActive? .keyEpoch c = none :=
    Registrar.findActive?_eq_none_of_added hkeys hearly rfl
  have hlt : 1 < ((trialScene.parties.set 1
      ⟨trialRegistrar, (trialParty 2).guid, .dated key' .keyEpoch⟩).set 0
        ⟨trialRegistrar, (trialParty 1).guid, .ended (.ok (.registered key))⟩).length :=
    Nat.lt_succ_self 1
  obtain ⟨m, hadded⟩ := Scene.run_added secondDay.start secondDay.start (trialParty 2).guid key'
    hlt hcalm rfl hc hinactive
  have hrun : trialScene.run overlapTurns = _ :=
    (Scene.run_append _ _ _).trans ((congrArg (fun s => Scene.run s _) hdated).trans
      ((Scene.run_append _ _ _).trans
        ((congrArg (fun s => Scene.run s _) hregistered).trans hadded)))
  exact ⟨key, key', by rw [hrun]; rfl, hbegins, hbegins'⟩

/-- When the day changes between reading it for the store and having the lock, a party does not
see that a license was added on the new day, and adds one that overlaps with it. -/
theorem Scene.windows_overlap :
  trialScene.Ready trialRegistrar ∧
    (overlapTurns.Pairwise fun t u => t.now.day.day ≤ u.now.day.day) ∧
    ∃ key key', (trialScene.run overlapTurns).parties = registeredParties key key' ∧
      ∃ d d' first first' last last',
        Eligibility.registrationOf trialRegistrar.trust key = .ok d ∧
        d.validFrom = some first ∧ d.validTo = some last ∧
        Eligibility.registrationOf trialRegistrar.trust key' = .ok d' ∧
        d'.validFrom = some first' ∧ d'.validTo = some last' ∧
        first.day ≤ last'.day ∧ first'.day ≤ last.day
  := by
  obtain ⟨key, key', hparties, hbegins, hbegins'⟩ := exists_run_overlapTurns
  obtain ⟨d, last, hd, -, hfirst, hlast, hday⟩ := hbegins.registration
  obtain ⟨d', last', hd', -, hfirst', hlast', hday'⟩ := hbegins'.registration
  have hdays : trialRegistrar.evaluationDays = 45 := by decide
  have hnext : secondDay.day = Date.keyEpoch.day + 1 := rfl
  use ready_trialScene, by decide, key, key', hparties, d, d', secondDay, .keyEpoch, last, last',
    hd, hfirst, hlast, hd', hfirst', hlast'
  omega

end Entitlement
