import Entitlement.Proofs.Evaluation.Registration
import Entitlement.Proofs.Store.Configuration

/-!
# Registrations are atomic

Whatever fails during a registration and whatever other programs put into the files
meanwhile, a registration adds a license to the store in one writing or leaves the store
alone, and its outcome says which. What it adds the license to is what the store contained
right before that writing, so nothing that another program has put there is lost.
-/

namespace Entitlement

/-- The writing is one of the file. -/
def Write.isOf (file : FileName) (w : Write) : Bool := w.file = file

/-- The writing adds a key to the store: the configuration that is written is the one that
the store contained, with the key appended to its list, and it is read again from what is
written, with its numbers as they are read. -/
def Write.Appends (w : Write) (key : String) : Prop :=
  ∃ c, Configuration.ofContents? w.before = some c ∧
    w.text = ({ c with licenses := c.licenses ++ [key] } : Configuration).text ∧
    Configuration.ofContents? (some w.text) =
      some { c.reread with licenses := c.licenses ++ [key] }

/-- When the doubles of the store are read as they are written, nothing but the key comes to
it. -/
theorem Write.Appends.ofContents?_text {w : Write} {key : String} {c : Configuration}
    (h : w.Appends key) (hc : Configuration.ofContents? w.before = some c)
    (hx : c.RereadsDoubles) :
  Configuration.ofContents? (some w.text) = some { c with licenses := c.licenses ++ [key] }
  := by
  obtain ⟨c', hc', -, hreread⟩ := h
  cases hc.symm.trans hc'
  rw [hreread, Configuration.reread_of_rereadsDoubles (Configuration.shaped_of_ofContents? hc) hx]

namespace Registrar

theorem Noted.written {key : String} {f f' : Files} (h : Noted key f f') :
  ∃ ws, f'.written = f.written ++ ws ∧ ws.filter (Write.isOf .store) = []
  := by
  rcases h with hdrift | ⟨g, hdrift, rfl⟩
  · use []
    rw [hdrift.written, List.append_nil]
    use rfl
    rfl
  · use [⟨.record, g.contents .record, EvaluationRecord.text ⟨some key⟩⟩]
    rw [← hdrift.written]
    use rfl
    rfl

/-- After a key has been added to the store, what it has written there is the last writing of
the store. -/
theorem Noted.written_added {key text : String} {g f' : Files}
    (h : Noted key (g.afterWrite .store text) f') :
  ∃ ws, f'.written = g.written ++ ws ∧ ws.filter (Write.isOf .store) = [⟨.store, g.store, text⟩]
  := by
  obtain ⟨ws, hwritten, hrecord⟩ := h.written
  use ⟨.store, g.store, text⟩ :: ws
  constructor
  · rw [hwritten]
    exact List.append_assoc g.written [⟨.store, g.store, text⟩] ws
  · rw [List.filter_cons, hrecord]
    rfl

variable [SignatureScheme]

/-- A registration that has failed or was refused has written nothing, one that has found a
license has not written to the store, and one that has added a license has written to the
store once, and this has added the license to what the store contained. -/
theorem register_atomic (r : Registrar) (now : Instant) (guid : Guid) (f : Files) :
  ∃ ws, ((r.register now guid).run.run f).2.written = f.written ++ ws ∧
    (ws.filter (Write.isOf .store)).length ≤ 1 ∧
    match ((r.register now guid).run.run f).1 with
    | .error _ => ws = []
    | .ok (.ineligible _) => ws = []
    | .ok (.alreadyRegistered _) => ws.filter (Write.isOf .store) = []
    | .ok (.registered key) => ∃ w, ws.filter (Write.isOf .store) = [w] ∧ w.Appends key
  := by
  rcases hrun : (r.register now guid).run.run f with ⟨o, f'⟩
  cases ends_register hrun with
  | failed drift | refused drift =>
    use []
    rw [List.append_nil]
    use drift.written, Nat.zero_le 1
  | running drift =>
    use []
    rw [List.append_nil]
    use drift.written, Nat.zero_le 1
    rfl
  | found admitted drift loaded active noted =>
    obtain ⟨ws, hwritten, hrecord⟩ := noted.written
    use ws
    rw [hwritten, drift.written, hrecord]
    use rfl, Nat.zero_le 1
  | @added c key g _ admitted issued drift loaded inactive noted =>
    obtain ⟨ws, hwritten, hfilter⟩ := noted.written_added
    use ws
    rw [hfilter, hwritten, drift.written]
    use rfl, Nat.le_refl 1
    exact ⟨_, rfl, c, loaded, rfl, Configuration.ofText?_append loaded key⟩

end Registrar
end Entitlement
