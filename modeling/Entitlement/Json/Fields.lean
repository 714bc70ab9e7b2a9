import Entitlement.Json.Reader

/-!
# Fields

Settings and records are texts with a fixed list of named fields. `Json.fields` reads them
from an object, whose other members are skipped, or from an array that has their values in
the order of the names. `Json.field?` picks a field and refuses one that occurs twice.
-/

namespace Entitlement.Json

/-- A member of an object, with its value if it is one of the names. -/
def fieldMember (names : List String) : Reader (String × Option Json) :=
  member readString fun k cs =>
    if names.contains k then (inner cs).map fun (v, cs) => (some v, cs)
    else (skipValue cs).map fun (_, cs) => (none, cs)

/-- The fields with the names in the text; an array has at least `least` of them. -/
def fields (names : List String) (least : Nat) : Reader (List (String × Json))
  | '{' :: cs => do
    let (ms, cs) ← items (fieldMember names) '}' cs
    return (ms.filterMap fun (k, v) => v.map fun v => (k, v), cs)
  | '[' :: cs => do
    let (vs, cs) ← items inner ']' cs
    if least ≤ vs.length ∧ vs.length ≤ names.length then some (names.zip vs, cs) else none
  | _ => none

/-- What is decoded from the one member with the name, or else a default. -/
def field? {α : Type} (ms : List (String × Json)) (name : String) (absent : α)
    (decode : Json → Option α) : Option α :=
  match ms.filter fun m => m.1 = name with
  | [] => some absent
  | [m] => decode m.2
  | _ => none

/-! ### Decoding values -/

/-- The string that a value is. -/
def string? : Json → Option String
  | string s => some s
  | _ => none

/-- The string that a value is, or nothing if it is null. -/
def stringOrNull? : Json → Option (Option String)
  | null => some none
  | string s => some (some s)
  | _ => none

/-- The list of strings that a value is. -/
def strings? : Json → Option (List String)
  | array vs => vs.mapM string?
  | _ => none

/-- The natural number below a bound that a value is. -/
def natBelow? (bound : Nat) : Json → Option Nat
  | number (.integer n _ _) => if 0 ≤ n ∧ n < bound then some n.toNat else none
  | _ => none

end Entitlement.Json
