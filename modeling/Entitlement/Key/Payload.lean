import Entitlement.Key.Error
import Entitlement.Sorted

/-!
# Payloads

A `Payload` is the content of a license key: fields in the order of their indices, at most
one under each index, each with a value of the type that the table gives to its index.
`Payload.set` refuses values that do not fit, so that every payload has these properties.
-/

namespace Entitlement

/-- What is wrong with a value under an index whose type it has not. -/
def FieldIndex.mismatch (i : FieldIndex) (v : FieldValue) : KeyError :=
  match i.type? with
  | some expected => .typeMismatch i expected v.type
  | none => .invalidValue i .untyped

/-- The fields of a license key. -/
structure Payload where
  /-- The fields with their indices. -/
  fields : List (FieldIndex × FieldValue)
  ascending : Sorted.Ascending fields
  typed : ∀ f ∈ fields, f.1.type? = some f.2.type
deriving DecidableEq

namespace Payload

/-- The payload without fields. -/
def empty : Payload := ⟨[], List.Pairwise.nil, by simp⟩

/-- The payload with the value under the index, in place of the one there. -/
def insert (p : Payload) (i : FieldIndex) (v : FieldValue) (h : i.type? = some v.type) :
    Payload where
  fields := Sorted.insert i v p.fields
  ascending := p.ascending.insert FieldIndex.lt_trichotomy
  typed := by
    intro f hf
    rcases Sorted.mem_insert hf with rfl | hf
    · exact h
    · exact p.typed f hf

/-- The payload with the value under the index, if it has the type of the index. -/
def set (p : Payload) (i : FieldIndex) (v : FieldValue) : Except KeyError Payload :=
  if h : i.type? = some v.type then .ok (p.insert i v h) else .error (i.mismatch v)

/-- The payload without the field under the index. -/
def remove (p : Payload) (i : FieldIndex) : Payload where
  fields := Sorted.erase i p.fields
  ascending := p.ascending.erase
  typed := fun f hf => p.typed f (Sorted.mem_of_mem_erase hf)

/-- The payload with fields set one after the other. -/
def setAll (p : Payload) : List (FieldIndex × FieldValue) → Except KeyError Payload
  | [] => .ok p
  | f :: fs => do
    let p ← p.set f.1 f.2
    p.setAll fs

/-- The payload that a key keeps of a payload. -/
def kept (p : Payload) : Payload where
  fields := p.fields.map fun f => (f.1, f.2.kept)
  ascending := by
    apply List.pairwise_map.2
    exact p.ascending
  typed := by
    intro f hf
    obtain ⟨g, hg, rfl⟩ := List.mem_map.1 hf
    rw [FieldValue.type_kept]
    exact p.typed g hg

/-! ### Looking up fields -/

/-- The value under the index. -/
def get? (p : Payload) (i : FieldIndex) : Option FieldValue :=
  Sorted.find? i p.fields

theorem get?_empty (i : FieldIndex) :
  empty.get? i = none
  := rfl

theorem get?_insert (p : Payload) (i j : FieldIndex) (v : FieldValue)
    (h : i.type? = some v.type) :
  (p.insert i v h).get? j = if j = i then some v else p.get? j
  := Sorted.find?_insert i j v p.fields

theorem get?_remove (p : Payload) (i j : FieldIndex) :
  (p.remove i).get? j = if j = i then none else p.get? j
  := Sorted.find?_erase i j p.fields

theorem get?_kept (p : Payload) (i : FieldIndex) :
  p.kept.get? i = (p.get? i).map (·.kept)
  := Sorted.find?_map i FieldValue.kept p.fields

/-- Payloads are the same when they have the same values. -/
theorem ext_get? {p q : Payload} (h : ∀ i, p.get? i = q.get? i) :
  p = q
  := by
  have : p.fields = q.fields := p.ascending.ext FieldIndex.lt_irrefl q.ascending h
  cases p
  cases q
  cases this
  rfl

/-- There is a value under the index. -/
def contains (p : Payload) (i : FieldIndex) : Bool :=
  (p.get? i).isSome

/-- The number of fields. -/
def size (p : Payload) : Nat :=
  p.fields.length

/-- There are no fields. -/
def isEmpty (p : Payload) : Bool :=
  p.fields.isEmpty

def bool? (p : Payload) (i : FieldIndex) : Option Bool :=
  match p.get? i with
  | some (.bool v) => some v
  | _ => none

def byte? (p : Payload) (i : FieldIndex) : Option UInt8 :=
  match p.get? i with
  | some (.byte v) => some v
  | _ => none

def byteBuffer? (p : Payload) (i : FieldIndex) : Option Bytes :=
  match p.get? i with
  | some (.byteBuffer v) => some v
  | _ => none

def date? (p : Payload) (i : FieldIndex) : Option Date :=
  match p.get? i with
  | some (.date v) => some v
  | _ => none

def dateTime? (p : Payload) (i : FieldIndex) : Option Instant :=
  match p.get? i with
  | some (.dateTime v) => some v
  | _ => none

def guid? (p : Payload) (i : FieldIndex) : Option Guid :=
  match p.get? i with
  | some (.guid v) => some v
  | _ => none

def int16? (p : Payload) (i : FieldIndex) : Option Int16 :=
  match p.get? i with
  | some (.int16 v) => some v
  | _ => none

def int32? (p : Payload) (i : FieldIndex) : Option Int32 :=
  match p.get? i with
  | some (.int32 v) => some v
  | _ => none

def int64? (p : Payload) (i : FieldIndex) : Option Int64 :=
  match p.get? i with
  | some (.int64 v) => some v
  | _ => none

def string? (p : Payload) (i : FieldIndex) : Option String :=
  match p.get? i with
  | some (.string v) => some v
  | _ => none

end Payload

end Entitlement
