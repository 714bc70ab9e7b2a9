import Entitlement.Key.Record

/-!
# Reading records

A reader takes octets off the front of a string, or finds them wrong. `Payload.decode`
reads records in any order up to the end mark, and tells where the signature stands and
whether records follow it.

A truth value outside the prefixed range has two forms: one octet, or the octet and three
more. The long form is known by a zero after the octet, which is no index of a field; once
it has been met, every later truth value has it too.

All readers but those of a truth value are made of readers of octets. `Reader.Closed` says
that a property of the readers of octets passes on to what is made of them; that octets are
only ever taken away is one (`Reader.closed_shrinks`), and makes the reading of all records
come to an end.
-/

namespace Entitlement

/-- A reader of octets. -/
abbrev Reader := StateT Bytes (Except KeyError)

namespace Reader

/-- The next octet. -/
def octet : Reader UInt8 := fun bs =>
  match bs with
  | [] => .error .truncated
  | b :: rest => .ok (b, rest)

/-- The next `n` octets. -/
def octets (n : Nat) : Reader Bytes := fun bs =>
  if n ≤ bs.length then .ok (bs.take n, bs.drop n) else .error .truncated

/-- The number in the next `n` octets. -/
def number (n : Nat) : Reader Nat := do
  let bs ← octets n
  return Bytes.ofLittleEndian bs

/-- The octets with their number before them. -/
def counted : Reader Bytes := do
  let n ← octet
  octets n.toNat

/-- The octet after the ones read, if there is one. -/
def peek : Reader (Option UInt8) := fun bs => .ok (bs.head?, bs)

/-- An octet as a truth value. -/
def boolean (i : FieldIndex) (b : UInt8) : Reader FieldValue :=
  if b = 0 then return .bool false
  else if b = 1 then return .bool true
  else throw (.invalidValue i (.notBoolean b))

/-- Milliseconds as an instant. -/
def instant (i : FieldIndex) (millis : Int) : Reader FieldValue :=
  match Instant.ofMillis? millis with
  | some t => return .dateTime t
  | none => throw (.invalidValue i (.timestampOutOfRange millis))

/-- Octets as a text. -/
def text (i : FieldIndex) (bs : Bytes) : Reader FieldValue :=
  match Bytes.toText? bs with
  | some s => return .string s
  | none => throw (.invalidUtf8 i)

/-- The date that many days after the first one of keys. -/
def keyDate (n : UInt16) : Date where
  day := Date.keyEpoch.day + n.toNat
  first_le := by
    have : Date.keyEpoch.day = 10957 := rfl
    omega
  le_last := by
    have : Date.keyEpoch.day = 10957 := rfl
    have := n.toNat_lt
    omega

/-- The next sixteen octets as an identifier. -/
def guid : Reader FieldValue := do
  let bs ← octets 16
  match Guid.ofBytes? bs with
  | some g => return .guid g
  | none => throw .truncated

/-- A value of the given type, truth values in the short form. -/
def value (i : FieldIndex) : FieldType → Reader FieldValue
  | .bool => do
    let b ← octet
    boolean i b
  | .byte => return .byte (← octet)
  | .byteBuffer => return .byteBuffer (← counted)
  | .date => return .date (keyDate (UInt16.ofNat (← number 2)))
  | .dateTime => do
    let n ← number 8
    instant i (UInt64.ofNat n).toInt64.toInt
  | .guid => guid
  | .int16 => return .int16 (UInt16.ofNat (← number 2)).toInt16
  | .int32 => return .int32 (UInt32.ofNat (← number 4)).toInt32
  | .int64 => return .int64 (UInt64.ofNat (← number 8)).toInt64
  | .string => do
    let bs ← counted
    text i bs

/-- The number of octets that a value at the front of `body` has. -/
def valueLength (t : FieldType) (body : Bytes) : Except KeyError Nat :=
  match t.fixedSize?, body with
  | some n, _ => .ok n
  | none, b :: _ => .ok (1 + b.toNat)
  | none, [] => .error .truncated

/-- A value with its length before it. -/
def framed (i : FieldIndex) (t : FieldType) : Reader FieldValue := do
  let body ← counted
  let expected ← valueLength t body
  if body.length = expected then
    let (v, _) ← (value i t).run body
    return v
  else
    throw (.invalidLength i body.length expected)

/-- A value with no length before it, and whether truth values are now in the long form;
`long` says whether they are already. -/
def bare (i : FieldIndex) (long : Bool) : FieldType → Reader (FieldValue × Bool)
  | .bool => do
    let b ← octet
    let next ← peek
    let long := long || next = some 0
    if long then
      let _ ← octets 3
    let v ← boolean i b
    return (v, long)
  | t => do
    let v ← value i t
    return (v, long)

/-- A field that is passed over. -/
def skipped : Reader Unit := do
  let _ ← counted

end Reader

/-! ### Payloads -/

/-- The payload with one more field, which must not be there yet. -/
def Payload.add (p : Payload) (i : FieldIndex) (v : FieldValue) : Except KeyError Payload :=
  if p.contains i then .error (.duplicateField i) else p.set i v

/-- What the records of a license key hold. -/
structure Decoded where
  payload : Payload
  /-- The number of octets before the record of the signature. -/
  signatureOffset : Option Nat
  /-- Some record follows that of the signature. -/
  fieldsAfterSignature : Bool
deriving DecidableEq

/-- How far the records have been read. -/
structure Reading extends Decoded where
  /-- Truth values are in the long form. -/
  longBooleans : Bool

namespace Reading

/-- Nothing has been read. -/
def start : Reading := ⟨⟨Payload.empty, none, false⟩, false⟩

/-- A record begins: it follows the signature if that has been read. -/
def begin (r : Reading) : Reading :=
  { r with fieldsAfterSignature := r.fieldsAfterSignature || r.signatureOffset.isSome }

/-- The field at an offset has been read. -/
def field (r : Reading) (offset : Nat) (i : FieldIndex) (v : FieldValue) (long : Bool) :
    Except KeyError Reading := do
  let payload ← r.payload.add i v
  let signatureOffset := if i = .signature then some offset else r.signatureOffset
  return ⟨⟨payload, signatureOffset, r.fieldsAfterSignature⟩, long⟩

/-- Reads the record at an offset, whose index has been read. -/
def record (r : Reading) (offset : Nat) (i : FieldIndex) : Reader Reading :=
  match i.type? with
  | none =>
    if i.isCritical then throw (.unknownCriticalField i)
    else do
      Reader.skipped
      return r.begin
  | some t =>
    if i.isPrefixed then do
      let v ← Reader.framed i t
      r.begin.field offset i v r.longBooleans
    else do
      let (v, long) ← Reader.bare i r.longBooleans t
      r.begin.field offset i v long

end Reading

/-! ### Properties that pass to readers made of readers -/

/-- The readers of octets have the property, and so have readers that are made of readers with
it. -/
structure Reader.Closed (P : ∀ {α : Type}, Reader α → Prop) : Prop where
  pure : ∀ {α : Type} (a : α), P (Pure.pure a)
  throw : ∀ {α : Type} (e : KeyError), P (MonadExcept.throw e : Reader α)
  bind : ∀ {α β : Type} {m : Reader α} {f : α → Reader β}, P m → (∀ a, P (f a)) → P (m >>= f)
  octet : P Reader.octet
  octets : ∀ n, P (Reader.octets n)

namespace Reader.Closed

variable {P : ∀ {α : Type}, Reader α → Prop} (h : Closed P)

include h

theorem lift {α : Type} (x : Except KeyError α) :
  P (liftM x : Reader α)
  := by
  cases x with
  | error e => exact h.throw e
  | ok a => exact h.pure a

theorem number (n : Nat) :
  P (Reader.number n)
  := h.bind (h.octets n) fun _ => h.pure _

theorem counted :
  P Reader.counted
  := h.bind h.octet fun _ => h.octets _

theorem boolean (i : FieldIndex) (b : UInt8) :
  P (Reader.boolean i b)
  := by
  unfold Reader.boolean
  split
  · exact h.pure _
  · split
    · exact h.pure _
    · exact h.throw _

theorem instant (i : FieldIndex) (millis : Int) :
  P (Reader.instant i millis)
  := by
  unfold Reader.instant
  split
  · exact h.pure _
  · exact h.throw _

theorem text (i : FieldIndex) (bs : Bytes) :
  P (Reader.text i bs)
  := by
  unfold Reader.text
  split
  · exact h.pure _
  · exact h.throw _

theorem guid :
  P Reader.guid
  := by
  apply h.bind (h.octets 16)
  intro bs
  split
  · exact h.pure _
  · exact h.throw _

theorem value (i : FieldIndex) (t : FieldType) :
  P (Reader.value i t)
  := by
  cases t with
  | bool => exact h.bind h.octet fun _ => h.boolean _ _
  | byte => exact h.bind h.octet fun _ => h.pure _
  | byteBuffer => exact h.bind h.counted fun _ => h.pure _
  | dateTime => exact h.bind (h.number 8) fun _ => h.instant _ _
  | guid => exact h.guid
  | string => exact h.bind h.counted fun _ => h.text _ _
  | date | int16 => exact h.bind (h.number 2) fun _ => h.pure _
  | int32 => exact h.bind (h.number 4) fun _ => h.pure _
  | int64 => exact h.bind (h.number 8) fun _ => h.pure _

theorem framed (i : FieldIndex) (t : FieldType) :
  P (Reader.framed i t)
  := by
  apply h.bind h.counted
  intro body
  apply h.bind (h.lift _)
  intro expected
  split
  · exact h.bind (h.lift _) fun _ => h.pure _
  · exact h.throw _

theorem skipped :
  P Reader.skipped
  := h.bind h.counted fun _ => h.pure _

/-- A record has the property when its value has it where no length stands before it. -/
theorem record (r : Reading) (offset : Nat) (i : FieldIndex)
    (hbare : ∀ t, i.type? = some t → P (Reader.bare i r.longBooleans t)) :
  P (r.record offset i)
  := by
  unfold Reading.record
  split
  · split
    · exact h.throw _
    · exact h.bind h.skipped fun _ => h.pure _
  · rename_i t ht
    split
    · exact h.bind (h.framed _ _) fun _ => h.lift _
    · exact h.bind (hbare t ht) fun _ => h.lift _

end Reader.Closed

/-! ### The rest is no longer -/

/-- A reader that leaves no more octets than it was given. -/
def Reader.Shrinks {α : Type} (m : Reader α) : Prop :=
  ∀ (bs : Bytes) (a : α) (rest : Bytes), m bs = .ok (a, rest) → rest.length ≤ bs.length

namespace Reader

variable {α β : Type}

theorem Shrinks.bind {m : Reader α} {f : α → Reader β} (hm : Shrinks m)
    (hf : ∀ a, Shrinks (f a)) :
  Shrinks (m >>= f)
  := by
  intro bs b rest h
  change (m bs >>= fun p => f p.1 p.2) = _ at h
  cases hx : m bs with
  | error e =>
    rw [hx] at h
    cases h
  | ok p =>
    rw [hx] at h
    exact Nat.le_trans (hf p.1 p.2 b rest h) (hm bs p.1 p.2 hx)

theorem shrinks_octet :
  Shrinks octet
  := by
  intro bs a rest h
  cases bs with
  | nil => cases h
  | cons b bs =>
    cases h
    exact Nat.le_succ _

theorem shrinks_octets (n : Nat) :
  Shrinks (octets n)
  := by
  intro bs a rest h
  simp only [octets] at h
  split at h
  · cases h
    simp
  · cases h

theorem shrinks_peek :
  Shrinks peek
  := by
  intro bs a rest h
  cases h
  exact Nat.le_refl _

theorem closed_shrinks :
  Closed Shrinks
  where
  pure a := by
    intro bs _ _ h
    cases h
    exact Nat.le_refl _
  throw e := by
    intro _ _ _ h
    cases h
  bind := Shrinks.bind
  octet := shrinks_octet
  octets := shrinks_octets

theorem shrinks_bare (i : FieldIndex) (long : Bool) (t : FieldType) :
  Shrinks (bare i long t)
  := by
  unfold bare
  split
  · apply shrinks_octet.bind
    intro b
    apply shrinks_peek.bind
    intro next
    dsimp only
    split
    · exact (shrinks_octets 3).bind fun _ =>
        (closed_shrinks.boolean _ _).bind fun _ => closed_shrinks.pure _
    · exact (closed_shrinks.boolean _ _).bind fun _ => closed_shrinks.pure _
  · exact (closed_shrinks.value i t).bind fun _ => closed_shrinks.pure _

end Reader

theorem Reading.shrinks_record (r : Reading) (offset : Nat) (i : FieldIndex) :
  (r.record offset i).Shrinks
  := Reader.closed_shrinks.record r offset i fun t _ => Reader.shrinks_bare i r.longBooleans t

/-! ### All records -/

/-- Reads records up to the end mark. `size` is the number of octets of the whole payload,
of which `bs` is the part not yet read. -/
def Reading.run (size : Nat) (r : Reading) (bs : Bytes) : Except KeyError Decoded :=
  match bs with
  | [] => .error .truncated
  | b :: rest =>
    if b = FieldIndex.endMark.value then
      if rest.isEmpty then .ok r.toDecoded else .error (.trailingBytes rest.length)
    else
      match h : r.record (size - (rest.length + 1)) ⟨b⟩ rest with
      | .error e => .error e
      | .ok (next, rest') =>
        have : rest'.length ≤ rest.length := r.shrinks_record _ _ rest next rest' h
        next.run size rest'
termination_by bs.length
decreasing_by
  simp only [List.length_cons]
  omega

/-- What the octets of a payload hold. -/
def Payload.decode (bs : Bytes) : Except KeyError Decoded :=
  Reading.start.run bs.length bs

end Entitlement
