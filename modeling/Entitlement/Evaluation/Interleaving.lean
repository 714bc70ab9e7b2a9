import Entitlement.Evaluation.Registrar

/-!
# Registrations at the same time

Several parties may register at once, in threads or in processes of their own. What a party
does between two moments at which others may come in is a step, and a `Phase` says how far a
registration has come: the record is looked at, a license is issued, the day is read for the
search in the store, the store is searched and written under its lock, and the record is
written. `Registrar.advance` takes the next step.

A `Scene` is the files with all parties that register. A `Turn` is a step of one of them at an
instant, so a list of turns is one way in which the registrations interleave.
-/

namespace Entitlement

/-- How far a registration has come. -/
inductive Phase where
  /-- The record has not been looked at. -/
  | begun
  /-- The record allows a new evaluation. -/
  | admitted
  /-- A license with the key has been issued. -/
  | issued (key : String)
  /-- The day has been read, and the lock of the store is to be had. -/
  | dated (key : String) (today : Date)
  /-- The store has been written or searched, and the record is to be written. -/
  | entered (outcome : Outcome)
  /-- The record names a license that is valid until the day. -/
  | running (validTo : Date)
  /-- The day has been read, and the store is to be searched for that license. -/
  | searching (validTo today : Date)
  | ended (result : Except LicenseError Outcome)

namespace Registrar

variable [SignatureScheme]

/-- The next step of a registration, at an instant. -/
def advance (r : Registrar) (now : Instant) (guid : Guid) : Phase → StateM Files Phase
  | .begun => do
    match ← r.eligibility now.day with
    | .eligible => return .admitted
    | .withinEvaluation validTo => return .running validTo
    | e => return .ended (.ok (.ineligible e))
  | .admitted =>
    match r.issue now guid with
    | .ok key => return .issued key
    | .error e => return .ended (.error e)
  | .issued key => return .dated key now.day
  | .dated key today => do
    match ← (r.store today key).run with
    | .ok outcome => return .entered outcome
    | .error e => return .ended (.error e)
  | .entered outcome => do
    if let some key := outcome.key? then
      r.noteRegistered key
    return .ended (.ok outcome)
  | .running validTo => return .searching validTo now.day
  | .searching validTo today => do
    match ← (r.findRegistered today).run with
    | .ok (some key) => return .ended (.ok (.alreadyRegistered key))
    | .ok none => return .ended (.ok (.ineligible (.withinEvaluation validTo)))
    | .error e => return .ended (.error e)
  | .ended result => return .ended result

end Registrar

/-- Who registers: a registrar, the guid for its license, and how far it has come. -/
structure Party where
  registrar : Registrar
  guid : Guid
  phase : Phase := .begun

/-- A step of a party at an instant. -/
structure Turn where
  /-- The place of the party among all of them. -/
  party : Nat
  now : Instant

/-- The files, and the parties that register. -/
structure Scene where
  files : Files
  parties : List Party

namespace Scene

variable [SignatureScheme]

/-- The scene after a party has taken its next step. -/
def turn (s : Scene) (t : Turn) : Scene :=
  match s.parties[t.party]? with
  | none => s
  | some p =>
    let (phase, files) := (p.registrar.advance t.now p.guid p.phase).run s.files
    ⟨files, s.parties.set t.party { p with phase }⟩

/-- The scene after steps of the parties one after the other. -/
def run (s : Scene) (ts : List Turn) : Scene :=
  ts.foldl turn s

end Scene

end Entitlement
