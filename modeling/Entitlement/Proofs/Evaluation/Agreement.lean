import Entitlement.Proofs.Evaluation.Steps
import Entitlement.Proofs.Evaluation.Window

/-!
# Registrations at the same time agree

When several parties register on one day and nothing fails, one of them adds its license to the
store and all others find that one there, in whichever order they take their steps, if an
evaluation can begin on the day. If not, no license can be issued, and nobody changes anything
(`Scene.registrations_agree`).

What carries the proof is that a scene is in one of two stages (`Scene.Stage`): as long as
nobody has entered a key the files are as they were in the beginning, and after that the store
has one license more, which every party comes upon. When no license can be issued, nobody gets
to the store, and the files stay as they are (`Scene.Barred`).
-/

namespace Entitlement

/-! ### Phases -/

section

variable [SignatureScheme]

/-- The phases of a party before a key has been entered. -/
inductive Phase.Waiting (r : Registrar) (today : Date) : Phase → Prop where
  | begun : Waiting r today .begun
  | admitted : Waiting r today .admitted
  | issued {key : String} (begins : r.Begins key today) : Waiting r today (.issued key)
  | dated {key : String} (begins : r.Begins key today) : Waiting r today (.dated key today)

/-- The phases of a party that will come to the outcome, after the key has been entered. Some of
them are only reached when the key has been noted. -/
inductive Phase.Heading (r : Registrar) (today : Date) (key : String) (noted : Prop) :
    Outcome → Phase → Prop where
  | waiting {phase : Phase} (waiting : phase.Waiting r today) :
    Heading r today key noted (.alreadyRegistered key) phase
  | entered {outcome : Outcome} : Heading r today key noted outcome (.entered outcome)
  | running {validTo : Date} (h : noted) :
    Heading r today key noted (.alreadyRegistered key) (.running validTo)
  | searching {validTo : Date} (h : noted) :
    Heading r today key noted (.alreadyRegistered key) (.searching validTo today)
  | ended {outcome : Outcome} (h : noted) :
    Heading r today key noted outcome (.ended (.ok outcome))

/-- The phases of a party that cannot issue a license on the day. -/
inductive Phase.Barred (q : Registrar) (guid : Guid) (today : Date) : Phase → Prop where
  | begun : Barred q guid today .begun
  | admitted : Barred q guid today .admitted
  | ended {now : Instant} {e : LicenseError} (day : now.day = today)
    (failed : q.issue now guid = .error e) : Barred q guid today (.ended (.error e))

/-- What the party at a place comes to when the one at the first place has added the key. -/
def Outcome.afterFirst (key : String) (first i : Nat) : Outcome :=
  if i = first then .registered key else .alreadyRegistered key

omit [SignatureScheme] in
theorem Outcome.key?_afterFirst (key : String) (first i : Nat) :
  (afterFirst key first i).key? = some key
  := by
  unfold afterFirst
  split
  · rfl
  · rfl

omit [SignatureScheme] in
theorem Phase.Heading.mono {r : Registrar} {today : Date} {key : String} {noted noted' : Prop}
    {outcome : Outcome} {phase : Phase} (h : phase.Heading r today key noted outcome)
    (hnoted : noted → noted') :
  phase.Heading r today key noted' outcome
  := by
  cases h with
  | waiting waiting => apply Heading.waiting waiting
  | entered => apply Heading.entered
  | running h => apply Heading.running (hnoted h)
  | searching h => apply Heading.searching (hnoted h)
  | ended h => apply Heading.ended (hnoted h)

omit [SignatureScheme] in
theorem Phase.Heading.of_ended {r : Registrar} {today : Date} {key : String} {noted : Prop}
    {outcome : Outcome} {result : Except LicenseError Outcome}
    (h : (Phase.ended result).Heading r today key noted outcome) :
  noted ∧ result = .ok outcome
  := by
  cases h with
  | waiting waiting => cases waiting
  | ended noted => use noted

/-! ### Steps -/

section

variable {r q : Registrar} {now : Instant} {guid : Guid} {today : Date} {f f' : Files}
  {phase phase' : Phase} {c : Configuration}

omit [SignatureScheme] in
theorem not_failed (hlock : q.lockUsable = true)
    (hc : Configuration.ofContents? f.store = some c) :
  ¬ (q.lockUsable = false ∨ Configuration.ofContents? f.store = none)
  := by
  rw [hlock, hc]
  rintro (h | h)
  · cases h
  · cases h

omit [SignatureScheme] in
theorem Phase.Heading.of_same {key : String} {outcome : Outcome}
    (same : f'.contents = f.contents)
    (h : phase'.Heading r today key
      (f.record = some (EvaluationRecord.text ⟨some key⟩)) outcome) :
  f'.store = f.store ∧
    (f'.record = f.record ∨ f'.record = some (EvaluationRecord.text ⟨some key⟩)) ∧
    phase'.Heading r today key (f'.record = some (EvaluationRecord.text ⟨some key⟩)) outcome
  := by
  have hrecord : f'.record = f.record := congrFun same .record
  use congrFun same .store, .inl hrecord
  rw [hrecord]
  apply h

/-- Before a key has been entered, a step leaves the files alone, or it is the one that enters
a key. -/
theorem Phase.Waiting.moves (h : phase.Waiting r today)
    (hmoves : q.Moves now guid f f' phase phase') (hoptions : q.options = r.options)
    (hlock : q.lockUsable = true) (hnow : now.day = today)
    (hissued : ∃ key, q.issue now guid = .ok key)
    (hjudged : r.judgement today f.record = .eligible)
    (hc : Configuration.ofContents? f.store = some c)
    (hinactive : r.findActive? today c = none) :
  (f'.contents = f.contents ∧ phase'.Waiting r today) ∨
    ∃ key, r.Begins key today ∧ phase' = .entered (.registered key) ∧
      f'.store = some ({ c with licenses := c.licenses ++ [key] } : Configuration).text ∧
      f'.record = f.record
  := by
  cases h with
  | begun =>
    left
    cases hmoves with
    | admitted same judged => use same, .admitted
    | running same judged =>
      rw [hnow, Registrar.judgement_eq hoptions, hjudged] at judged
      cases judged
    | refused same judged ineligible =>
      rw [hnow, Registrar.judgement_eq hoptions, hjudged] at judged
      cases ineligible judged.symm
  | admitted =>
    left
    cases hmoves with
    | issued same issued =>
      have hbegins := Registrar.begins_of_issue hoptions issued
      rw [hnow] at hbegins
      use same, .issued hbegins
    | unissued same failed =>
      obtain ⟨key, hkey⟩ := hissued
      rw [hkey] at failed
      cases failed
  | issued begins =>
    left
    cases hmoves with
    | dated same =>
      rw [hnow]
      use same, .dated begins
  | @dated key begins =>
    cases hmoves with
    | found same loaded active =>
      cases hc.symm.trans loaded
      rw [Registrar.findActive?_eq q r, hinactive] at active
      cases active
    | added stored record loaded inactive =>
      right
      cases hc.symm.trans loaded
      rw [begins.add? begins.isActive_first hinactive] at stored
      use key, begins, rfl, stored, record
    | unstored same failed => cases not_failed hlock hc failed

/-- After a key has been entered, a party that has entered none leaves the files alone and comes
upon that one. -/
theorem Phase.Waiting.moves_of_active {key : String} (h : phase.Waiting r today)
    (hmoves : q.Moves now guid f f' phase phase') (hoptions : q.options = r.options)
    (hlock : q.lockUsable = true) (hnow : now.day = today)
    (hissued : ∃ key, q.issue now guid = .ok key) (hbegins : r.Begins key today)
    (hrecord : f.record = some (EvaluationRecord.text ⟨some key⟩) ∨
      r.judgement today f.record = .eligible)
    (hc : Configuration.ofContents? f.store = some c)
    (hactive : r.findActive? today c = some key) :
  f'.contents = f.contents ∧ phase'.Heading r today key
    (f.record = some (EvaluationRecord.text ⟨some key⟩)) (.alreadyRegistered key)
  := by
  cases h with
  | begun =>
    cases hmoves with
    | admitted same judged => use same, .waiting .admitted
    | running same judged =>
      use same
      rcases hrecord with hnoted | hjudged
      · apply Heading.running hnoted
      · rw [hnow, Registrar.judgement_eq hoptions, hjudged] at judged
        cases judged
    | refused same judged ineligible ended =>
      rw [hnow, Registrar.judgement_eq hoptions] at judged
      rcases hrecord with hnoted | hjudged
      · obtain ⟨validTo, hwithin⟩ := hbegins.judgement hbegins.isActive_first
        rw [hnoted, hwithin] at judged
        cases ended validTo judged.symm
      · rw [hjudged] at judged
        cases ineligible judged.symm
  | admitted =>
    cases hmoves with
    | issued same issued =>
      have hnew := Registrar.begins_of_issue hoptions issued
      rw [hnow] at hnew
      use same, .waiting (.issued hnew)
    | unissued same failed =>
      obtain ⟨key, hkey⟩ := hissued
      rw [hkey] at failed
      cases failed
  | issued begins =>
    cases hmoves with
    | dated same =>
      rw [hnow]
      use same, .waiting (.dated begins)
  | dated begins =>
    cases hmoves with
    | found same loaded active =>
      cases hc.symm.trans loaded
      rw [Registrar.findActive?_eq q r, hactive] at active
      cases active
      use same, .entered
    | added stored record loaded inactive =>
      cases hc.symm.trans loaded
      rw [Registrar.findActive?_eq q r, hactive] at inactive
      cases inactive
    | unstored same failed => cases not_failed hlock hc failed

/-- After a key has been entered, no step changes the store, and each party keeps heading for
its outcome. -/
theorem Phase.Heading.moves {key : String} {outcome : Outcome}
    (h : phase.Heading r today key
      (f.record = some (EvaluationRecord.text ⟨some key⟩)) outcome)
    (hmoves : q.Moves now guid f f' phase phase') (hoptions : q.options = r.options)
    (hlock : q.lockUsable = true) (hnow : now.day = today)
    (hissued : ∃ key, q.issue now guid = .ok key) (hkey : outcome.key? = some key)
    (hbegins : r.Begins key today)
    (hrecord : f.record = some (EvaluationRecord.text ⟨some key⟩) ∨
      r.judgement today f.record = .eligible)
    (hc : Configuration.ofContents? f.store = some c)
    (hactive : r.findActive? today c = some key) :
  f'.store = f.store ∧
    (f'.record = f.record ∨ f'.record = some (EvaluationRecord.text ⟨some key⟩)) ∧
    phase'.Heading r today key (f'.record = some (EvaluationRecord.text ⟨some key⟩)) outcome
  := by
  cases h with
  | waiting waiting =>
    obtain ⟨same, hheading⟩ := waiting.moves_of_active hmoves hoptions hlock hnow hissued hbegins
      hrecord hc hactive
    apply of_same same hheading
  | entered =>
    cases hmoves with
    | noted store record =>
      rw [hkey] at record
      use store, .inr record, .ended record
  | running noted =>
    cases hmoves with
    | reread same =>
      rw [hnow]
      apply of_same same (.searching noted)
  | searching noted =>
    cases hmoves with
    | recalled same loaded active =>
      cases hc.symm.trans loaded
      rw [Registrar.findActive?_eq q r, hactive] at active
      cases active
      apply of_same same (.ended noted)
    | missed same loaded inactive =>
      cases hc.symm.trans loaded
      rw [Registrar.findActive?_eq q r, hactive] at inactive
      cases inactive
    | unread same failed => cases not_failed hlock hc failed
  | ended noted =>
    cases hmoves with
    | rest same => apply of_same same (.ended noted)

/-- A step of a party that cannot issue a license changes nothing. -/
theorem Phase.Barred.advance (h : phase.Barred q guid now.day) (hcalm : f.Calm)
    (hjudged : q.judgement now.day f.record = .eligible)
    (hissue : ∀ key, q.issue now guid ≠ .ok key) :
  ∃ phase' n, (q.advance now guid phase).run f = (phase', { f with reads := n }) ∧
    phase'.Barred q guid now.day
  := by
  cases h with
  | begun =>
    obtain ⟨n, hrun⟩ := Registrar.run_eligibility_of_calm q now.day hcalm
    use .admitted, n
    rw [Registrar.advance_begun, hrun, hjudged]
    use rfl, .admitted
  | admitted =>
    rw [Registrar.advance_admitted]
    cases hissued : q.issue now guid with
    | ok key => cases hissue key hissued
    | error e => use .ended (.error e), f.reads, rfl, .ended rfl hissued
  | @ended _ e day failed => use .ended (.error e), f.reads, rfl, .ended day failed

end

/-! ### Scenes -/

/-- The party registers with the settings of the registrar, can have the lock of the store and
can issue a license at the instant. -/
structure Party.Able (r : Registrar) (now : Instant) (p : Party) : Prop where
  options : p.registrar.options = r.options
  lock : p.registrar.lockUsable = true
  issue : ∃ key, p.registrar.issue now p.guid = .ok key

/-- The party registers with the settings of the registrar, and cannot issue a license at the
instant. -/
structure Party.Unable (r : Registrar) (now : Instant) (p : Party) : Prop where
  options : p.registrar.options = r.options
  issue : ∀ key, p.registrar.issue now p.guid ≠ .ok key

namespace Scene

/-- How far parties have come that register on one day, with the files as they were in the
beginning and the configuration that these contain. -/
inductive Stage (r : Registrar) (today : Date) (f : Files) (c : Configuration) (s : Scene) :
    Prop where
  /-- Nobody has entered a key. -/
  | waiting (same : s.files.contents = f.contents)
    (parties : ∀ (i : Nat) (p : Party), s.parties[i]? = some p → p.phase.Waiting r today) :
    Stage r today f c s
  /-- The first party has entered its key, which may have been noted. -/
  | entered {key : String} {first : Nat} (begins : r.Begins key today)
    (lt : first < s.parties.length)
    (store : s.files.store =
      some ({ c with licenses := c.licenses ++ [key] } : Configuration).text)
    (record : s.files.record = some (EvaluationRecord.text ⟨some key⟩) ∨
      s.files.record = f.record)
    (parties : ∀ (i : Nat) (p : Party), s.parties[i]? = some p →
      p.phase.Heading r today key (s.files.record = some (EvaluationRecord.text ⟨some key⟩))
        (.afterFirst key first i)) :
    Stage r today f c s

variable {r : Registrar} {today : Date} {f : Files} {c : Configuration} {s : Scene} {t : Turn}

section

variable {p : Party} {phase : Phase} {g : Files}

/-- A step before a key has been entered. -/
theorem Stage.set_of_waiting (same : s.files.contents = f.contents)
    (parties : ∀ (i : Nat) (p : Party), s.parties[i]? = some p → p.phase.Waiting r today)
    (hp : s.parties[t.party]? = some p)
    (hmoves : p.registrar.Moves t.now p.guid s.files g p.phase phase) (hable : p.Able r t.now)
    (hnow : t.now.day = today) (hjudged : r.judgement today f.record = .eligible)
    (hc : Configuration.ofContents? f.store = some c)
    (hinactive : r.findActive? today c = none) :
  (⟨g, s.parties.set t.party { p with phase }⟩ : Scene).Stage r today f c
  := by
  have hstore : s.files.store = f.store := congrFun same .store
  have hrecord : s.files.record = f.record := congrFun same .record
  rw [← hstore] at hc
  rw [← hrecord] at hjudged
  rcases (parties _ p hp).moves hmoves hable.options hable.lock hnow hable.issue hjudged hc
    hinactive with ⟨hsame, hwaiting⟩ | ⟨key, hbegins, rfl, hadded, hkept⟩
  · apply Stage.waiting (hsame.trans same)
    apply forall_getElem?_set fun i q _ => parties i q
    apply hwaiting
  · have hlt : t.party < (s.parties.set t.party
        { p with phase := .entered (.registered key) }).length := by
      rw [List.length_set]
      apply (List.getElem?_eq_some_iff.1 hp).1
    apply Stage.entered hbegins hlt hadded (.inr (hkept.trans hrecord))
    apply forall_getElem?_set
    · intro i q hi hq
      rw [Outcome.afterFirst, if_neg hi]
      apply Phase.Heading.waiting (parties i q hq)
    · rw [Outcome.afterFirst, if_pos rfl]
      apply Phase.Heading.entered

/-- A step after a key has been entered. -/
theorem Stage.set_of_entered {key : String} {first : Nat} (begins : r.Begins key today)
    (lt : first < s.parties.length)
    (store : s.files.store =
      some ({ c with licenses := c.licenses ++ [key] } : Configuration).text)
    (record : s.files.record = some (EvaluationRecord.text ⟨some key⟩) ∨
      s.files.record = f.record)
    (parties : ∀ (i : Nat) (p : Party), s.parties[i]? = some p →
      p.phase.Heading r today key (s.files.record = some (EvaluationRecord.text ⟨some key⟩))
        (.afterFirst key first i))
    (hp : s.parties[t.party]? = some p)
    (hmoves : p.registrar.Moves t.now p.guid s.files g p.phase phase) (hable : p.Able r t.now)
    (hnow : t.now.day = today) (hjudged : r.judgement today f.record = .eligible)
    (hc : Configuration.ofContents? f.store = some c)
    (hinactive : r.findActive? today c = none) :
  (⟨g, s.parties.set t.party { p with phase }⟩ : Scene).Stage r today f c
  := by
  obtain ⟨c', hc', hkeys⟩ :=
    Configuration.exists_ofContents?_add hc begins.trim begins.ne_empty
  rw [begins.add? begins.isActive_first hinactive, Option.getD_some, ← store] at hc'
  have hactive := Registrar.findActive?_of_added hkeys begins.isActive_first hinactive
  have hrecord : s.files.record = some (EvaluationRecord.text ⟨some key⟩) ∨
      r.judgement today s.files.record = .eligible := by
    rcases record with hnoted | hkept
    · left
      apply hnoted
    · right
      rw [hkept, hjudged]
  obtain ⟨hstore, hnoted, hheading⟩ := (parties _ p hp).moves hmoves hable.options hable.lock
    hnow hable.issue (Outcome.key?_afterFirst _ _ _) begins hrecord hc' hactive
  apply Stage.entered begins _ (hstore.trans store)
  · rcases hnoted with hkept | hnoted
    · rw [hkept]
      apply record
    · left
      apply hnoted
  · apply forall_getElem?_set
    · intro i q _ hq
      apply (parties i q hq).mono
      intro hbefore
      rcases hnoted with hkept | hnoted
      · rw [← hbefore]
        apply hkept
      · apply hnoted
    · apply hheading
  · rw [List.length_set]
    apply lt

end

theorem Stage.turn (h : s.Stage r today f c) (hcalm : s.files.Calm) (hnow : t.now.day = today)
    (hparty : ∀ p, s.parties[t.party]? = some p → p.Able r t.now)
    (hjudged : r.judgement today f.record = .eligible)
    (hc : Configuration.ofContents? f.store = some c)
    (hinactive : r.findActive? today c = none) :
  (s.turn t).files.Calm ∧ (s.turn t).Stage r today f c
  := by
  rcases s.turn_cases t hcalm with ⟨-, hturn⟩ | ⟨p, phase, g, hp, hg, hmoves, hturn⟩
  · rw [hturn]
    use hcalm
  · rw [hturn]
    use hg
    cases h with
    | waiting same parties =>
      apply Stage.set_of_waiting same parties hp hmoves (hparty p hp) hnow hjudged hc hinactive
    | entered begins lt store record parties =>
      apply Stage.set_of_entered begins lt store record parties hp hmoves (hparty p hp) hnow
        hjudged hc hinactive

theorem Stage.run {ts : List Turn} (h : s.Stage r today f c) (hcalm : s.files.Calm)
    (htoday : ∀ t ∈ ts, t.now.day = today)
    (hparties : ∀ t ∈ ts, ∀ p, s.parties[t.party]? = some p → p.Able r t.now)
    (hjudged : r.judgement today f.record = .eligible)
    (hc : Configuration.ofContents? f.store = some c)
    (hinactive : r.findActive? today c = none) :
  (s.run ts).Stage r today f c
  := by
  induction ts generalizing s with
  | nil => apply h
  | cons t ts ih =>
    obtain ⟨hcalm', hturn⟩ := h.turn hcalm (htoday t List.mem_cons_self)
      (hparties t List.mem_cons_self) hjudged hc hinactive
    change ((s.turn t).run ts).Stage r today f c
    apply ih hturn hcalm' fun u hu => htoday u (List.mem_cons_of_mem t hu)
    intro u hu q hq
    obtain ⟨p, phase, hp, rfl⟩ := s.turn_party t _ q hq
    obtain ⟨hoptions, hlock, hissue⟩ := hparties u (List.mem_cons_of_mem t hu) p hp
    use hoptions, hlock

/-- When parties register on a day on which each of them can issue its license, one of them adds
its license to the store, and all others find it there. -/
theorem exists_registered {ts : List Turn} (hready : s.Ready r) (hsome : s.parties ≠ [])
    (hlock : ∀ p ∈ s.parties, p.registrar.lockUsable = true)
    (htoday : ∀ t ∈ ts, t.now.day = today)
    (hissue : ∀ t ∈ ts, ∀ p, s.parties[t.party]? = some p →
      ∃ key, p.registrar.issue t.now p.guid = .ok key)
    (hjudged : r.judgement today s.files.record = .eligible)
    (hc : Configuration.ofContents? s.files.store = some c)
    (hinactive : r.findActive? today c = none)
    (hended : ∀ p ∈ (s.run ts).parties, ∃ result, p.phase = .ended result) :
  ∃ key first, first < s.parties.length ∧
    (∀ i < s.parties.length, ∃ p : Party, (s.run ts).parties[i]? = some p ∧
      p.phase = .ended (.ok (.afterFirst key first i))) ∧
    (s.run ts).files.store =
      some ({ c with licenses := c.licenses ++ [key] } : Configuration).text ∧
    (s.run ts).files.record = some (EvaluationRecord.text ⟨some key⟩)
  := by
  have hwaiting : s.Stage r today s.files c := by
    apply Stage.waiting rfl
    intro i p hp
    rw [hready.begun p (List.mem_of_getElem? hp)]
    apply Phase.Waiting.begun
  have hable : ∀ t ∈ ts, ∀ p, s.parties[t.party]? = some p → p.Able r t.now := by
    intro t ht p hp
    have hmem := List.mem_of_getElem? hp
    constructor
    · apply hready.options p hmem
    · apply hlock p hmem
    · apply hissue t ht p hp
  have hpresent (i : Nat) (hi : i < s.parties.length) :
      ∃ p result, (s.run ts).parties[i]? = some p ∧ p.phase = .ended result := by
    rw [← s.length_run ts] at hi
    have hget := List.getElem?_eq_getElem hi
    obtain ⟨result, hresult⟩ := hended _ (List.mem_of_getElem? hget)
    use (s.run ts).parties[i], result
  cases hwaiting.run hready.calm htoday hable hjudged hc hinactive with
  | waiting same parties =>
    obtain ⟨p, result, hp, hresult⟩ := hpresent 0 (List.length_pos_iff.2 hsome)
    have hphase := parties 0 p hp
    rw [hresult] at hphase
    cases hphase
  | @entered key first begins lt store record parties =>
    rw [length_run] at lt
    have hphase (i : Nat) (hi : i < s.parties.length) :
        (s.run ts).files.record = some (EvaluationRecord.text ⟨some key⟩) ∧
          ∃ p : Party, (s.run ts).parties[i]? = some p ∧
            p.phase = .ended (.ok (.afterFirst key first i)) := by
      obtain ⟨p, result, hp, hresult⟩ := hpresent i hi
      have hheading := parties i p hp
      rw [hresult] at hheading
      obtain ⟨hnoted, rfl⟩ := hheading.of_ended
      use hnoted, p, hp
    use key, first, lt, fun i hi => (hphase i hi).2, store, (hphase first lt).1

/-- Nobody has come to the store, and the files are as they were in the beginning, except for
how often they were read. -/
structure Barred (today : Date) (f : Files) (s : Scene) : Prop where
  files : ∃ n, s.files = { f with reads := n }
  parties : ∀ (i : Nat) (p : Party), s.parties[i]? = some p →
    p.phase.Barred p.registrar p.guid today

theorem Barred.turn (h : s.Barred today f) (hcalm : f.Calm) (hnow : t.now.day = today)
    (hparty : ∀ p, s.parties[t.party]? = some p → p.Unable r t.now)
    (hjudged : r.judgement today f.record = .eligible) :
  (s.turn t).Barred today f
  := by
  obtain ⟨⟨m, hfiles⟩, hparties⟩ := h
  rw [Scene.turn]
  cases hp : s.parties[t.party]? with
  | none => use ⟨m, hfiles⟩
  | some p =>
    obtain ⟨hoptions, hissue⟩ := hparty p hp
    have hphase := hparties _ p hp
    subst hnow
    rw [← Registrar.judgement_eq hoptions] at hjudged
    obtain ⟨phase, n, hrun, hbarred⟩ :=
      Phase.Barred.advance hphase (hcalm.reads m) hjudged hissue
    rw [hfiles]
    dsimp only
    rw [hrun]
    use ⟨n, rfl⟩
    apply forall_getElem?_set fun i q _ => hparties i q
    apply hbarred

theorem Barred.run {ts : List Turn} (h : s.Barred today f) (hcalm : f.Calm)
    (htoday : ∀ t ∈ ts, t.now.day = today)
    (hparties : ∀ t ∈ ts, ∀ p, s.parties[t.party]? = some p → p.Unable r t.now)
    (hjudged : r.judgement today f.record = .eligible) :
  (s.run ts).Barred today f
  := by
  induction ts generalizing s with
  | nil => apply h
  | cons t ts ih =>
    rw [run_cons]
    apply ih
    · apply h.turn hcalm (htoday t List.mem_cons_self) (hparties t List.mem_cons_self) hjudged
    · intro u hu
      apply htoday u (List.mem_cons_of_mem t hu)
    · intro u hu q hq
      obtain ⟨p, phase, hp, rfl⟩ := s.turn_party t _ q hq
      obtain ⟨hoptions, hissue⟩ := hparties u (List.mem_cons_of_mem t hu) p hp
      use hoptions

/-- When parties register on a day on which none of them can issue its license, each of them
ends with the error of issuing, and nothing has changed. -/
theorem forall_unissued {ts : List Turn} (hready : s.Ready r)
    (htoday : ∀ t ∈ ts, t.now.day = today)
    (hissue : ∀ t ∈ ts, ∀ p, s.parties[t.party]? = some p →
      ∀ key, p.registrar.issue t.now p.guid ≠ .ok key)
    (hjudged : r.judgement today s.files.record = .eligible)
    (hended : ∀ p ∈ (s.run ts).parties, ∃ result, p.phase = .ended result) :
  (∃ n, (s.run ts).files = { s.files with reads := n }) ∧
    ∀ p ∈ (s.run ts).parties, ∃ now e, now.day = today ∧
      p.registrar.issue now p.guid = .error e ∧ p.phase = .ended (.error e)
  := by
  have hbarred : s.Barred today s.files := by
    use ⟨s.files.reads, rfl⟩
    intro i p hp
    rw [hready.begun p (List.mem_of_getElem? hp)]
    apply Phase.Barred.begun
  have hunable : ∀ t ∈ ts, ∀ p, s.parties[t.party]? = some p → p.Unable r t.now := by
    intro t ht p hp
    use hready.options p (List.mem_of_getElem? hp), hissue t ht p hp
  obtain ⟨hfiles, hparties⟩ := hbarred.run hready.calm htoday hunable hjudged
  use hfiles
  intro p hp
  obtain ⟨i, hi⟩ := List.mem_iff_getElem?.1 hp
  have hphase := hparties i p hi
  obtain ⟨result, hresult⟩ := hended p hp
  rw [hresult] at hphase
  cases hphase with
  | @ended now e day failed => use now, e, day, failed

/-! ### One day -/

/-- When parties register on a day on which the record allows it and no evaluation license is
active in the store, and an evaluation can begin on that day, then in the end one of them has
added its license to the store and all others have found it there, the store has this license
more than in the beginning, and the record has its key. When no evaluation can begin on that
day, then each of them ends with the error of issuing, and the files are as they were. -/
theorem registrations_agree {ts : List Turn} (hready : s.Ready r) (hsome : s.parties ≠ [])
    (hlock : ∀ p ∈ s.parties, p.registrar.lockUsable = true)
    (hsign : ∀ p ∈ s.parties, ∀ m,
      (SignatureScheme.sign p.registrar.issuer.secret m).length = SignatureScheme.signatureLength)
    (htoday : ∀ t ∈ ts, t.now.day = today)
    (heligible : ((r.eligibility today).run s.files).1 = .eligible)
    (hc : Configuration.ofContents? s.files.store = some c)
    (hinactive : r.findActive? today c = none)
    (hended : ∀ p ∈ (s.run ts).parties, ∃ result, p.phase = .ended result) :
  (r.CanBegin today →
    ∃ key first, first < s.parties.length ∧
      (∀ i < s.parties.length, ∃ p : Party, (s.run ts).parties[i]? = some p ∧
        p.phase = .ended (.ok (if i = first then .registered key else .alreadyRegistered key))) ∧
      (s.run ts).files.store =
        some ({ c with licenses := c.licenses ++ [key] } : Configuration).text ∧
      (s.run ts).files.record = some (EvaluationRecord.text ⟨some key⟩)) ∧
  (¬ r.CanBegin today →
    (∃ n, (s.run ts).files = { s.files with reads := n }) ∧
      ∀ p ∈ (s.run ts).parties, ∃ now e, now.day = today ∧
        p.registrar.issue now p.guid = .error e ∧ p.phase = .ended (.error e))
  := by
  have hjudged : r.judgement today s.files.record = .eligible := by
    obtain ⟨n, hrun⟩ := Registrar.run_eligibility_of_calm r today hready.calm
    rw [hrun] at heligible
    apply heligible
  have hcan (t : Turn) (ht : t ∈ ts) (p : Party) (hp : s.parties[t.party]? = some p) :
      (∃ key, p.registrar.issue t.now p.guid = .ok key) ↔ r.CanBegin today := by
    have hmem := List.mem_of_getElem? hp
    rw [Registrar.exists_issue_iff (hsign p hmem), htoday t ht,
      Registrar.canBegin_congr (hready.options p hmem)]
  constructor
  · intro hbegin
    apply exists_registered hready hsome hlock htoday _ hjudged hc hinactive hended
    intro t ht p hp
    apply (hcan t ht p hp).2 hbegin
  · intro hbegin
    apply forall_unissued hready htoday _ hjudged hended
    intro t ht p hp key hkey
    apply hbegin ((hcan t ht p hp).1 ⟨key, hkey⟩)

end Scene

end

/-! ### Two parties -/

/-- A party with a guid of one octet that is repeated. -/
def trialParty (octet : UInt8) : Party where
  registrar := trialRegistrar
  guid := ⟨List.replicate 16 octet, List.length_replicate⟩

/-- Two parties that find no files. -/
def trialScene : Scene where
  files := {}
  parties := [trialParty 1, trialParty 2]

/-- Steps of two parties on a day. The second one overtakes the first before the store is
written. -/
def trialTurns (today : Date) : List Turn :=
  [0, 0, 0, 1, 1, 1, 1, 0, 0, 1].map fun party => ⟨party, today.start⟩

/-- The second day on which a license may begin. -/
def secondDay : Date := ⟨Date.keyEpoch.day + 1, by decide, by decide⟩

theorem exists_issue_trialParty :
  ∀ p ∈ trialScene.parties, ∀ today ∈ [Date.keyEpoch, secondDay, trialReopening],
    ∃ key, p.registrar.issue today.start p.guid = .ok key
  := by
  intro p hp today htoday
  apply (Registrar.exists_issue_iff (Ed25519.length_sign _)).2
  have hcan : ∀ p ∈ trialScene.parties, ∀ today ∈ [Date.keyEpoch, secondDay, trialReopening],
      p.registrar.CanBegin today.start.day := by
    decide
  apply hcan p hp today htoday

theorem ready_trialScene :
  trialScene.Ready trialRegistrar
  where
  calm := ⟨rfl, rfl⟩
  begun := by
    intro p hp
    rcases List.mem_pair.1 hp with rfl | rfl
    · rfl
    · rfl
  options := by
    intro p hp
    rcases List.mem_pair.1 hp with rfl | rfl
    · rfl
    · rfl

/-- The day 1970-01-01, which no license key can name. -/
def earlyDay : Date := ⟨0, by decide, by decide⟩

theorem Scene.registrations_agree_trial :
  (∃ key first, first < 2 ∧
    (∀ i < 2, ∃ p : Party, (trialScene.run (trialTurns .keyEpoch)).parties[i]? = some p ∧
      p.phase = .ended (.ok (if i = first then .registered key else .alreadyRegistered key))) ∧
    (trialScene.run (trialTurns .keyEpoch)).files.store =
      some ({ licenses := [key] } : Configuration).text ∧
    (trialScene.run (trialTurns .keyEpoch)).files.record =
      some (EvaluationRecord.text ⟨some key⟩)) ∧
  (∃ n, (trialScene.run (trialTurns earlyDay)).files = { reads := n }) ∧
    ∀ p ∈ (trialScene.run (trialTurns earlyDay)).parties, ∃ now e, now.day = earlyDay ∧
      p.registrar.issue now p.guid = .error e ∧ p.phase = .ended (.error e)
  := by
  have hlock : ∀ p ∈ trialScene.parties, p.registrar.lockUsable = true := by
    decide
  have hagree (today : Date) (htoday : ∀ t ∈ trialTurns today, t.now.day = today)
      (hended : ∀ p ∈ (trialScene.run (trialTurns today)).parties,
        ∃ result, p.phase = .ended result) :=
    Scene.registrations_agree ready_trialScene (List.cons_ne_nil _ _) hlock
      (fun p _ => Ed25519.length_sign p.registrar.issuer.secret) htoday
      (congrArg Prod.fst (Registrar.run_eligibility_of_none rfl)) rfl rfl hended
  constructor
  · apply (hagree .keyEpoch (by decide) (Scene.ended_run (by decide))).1
    decide
  · apply (hagree earlyDay (by decide) (Scene.ended_run (by decide))).2
    decide

/-- A party alone that finds no files. -/
def loneScene : Scene where
  files := {}
  parties := [trialParty 1]

/-- On a day that no license key can name, nobody registers. -/
theorem Scene.not_registered_early :
  loneScene.Ready trialRegistrar ∧
    (∀ p ∈ loneScene.parties, p.registrar.lockUsable = true) ∧
    earlyDay.start.day = earlyDay ∧
    ((trialRegistrar.eligibility earlyDay).run loneScene.files).1 = .eligible ∧
    Configuration.ofContents? loneScene.files.store = some {} ∧
    trialRegistrar.findActive? earlyDay {} = none ∧
    ∃ e, loneScene.run (List.replicate 5 ⟨0, earlyDay.start⟩) =
      ⟨{}, [{ trialParty 1 with phase := .ended (.error e) }]⟩
  := by
  constructor
  · constructor
    · exact ⟨rfl, rfl⟩
    · intro p hp
      rw [List.mem_singleton.1 hp]
      rfl
    · intro p hp
      rw [List.mem_singleton.1 hp]
      rfl
  · use by decide, by decide, rfl, rfl, rfl
    exact ⟨_, rfl⟩

end Entitlement
