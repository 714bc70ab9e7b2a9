import Entitlement.Json.Fields
import Entitlement.Store.Files
import Entitlement.Text.Blank

/-!
# The store of licenses

A `Configuration` lists the keys of the licenses that the user has registered: any number
in a list, and one more that stands by itself. It is kept as a JSON object in a file that
other programs use too, so members of other names are kept with it.

`Configuration.keys` are the keys without blanks around them, each once, and
`Configuration.add?` appends a key that is not among them.
-/

namespace Entitlement

/-- The registered licenses. -/
structure Configuration where
  licenses : List String := []
  license : Option String := none
  /-- The other members of the object, sorted by name. -/
  other : List (String × Json) := []

namespace Configuration

/-! ### Keys -/

/-- The keys of the registered licenses. -/
def keys (c : Configuration) : List String :=
  (((c.licenses ++ c.license.toList).map Text.trim).filter fun k => k ≠ "").eraseDups

/-- The configuration with one more key, unless the key is there. -/
def add? (c : Configuration) (key : String) : Option Configuration :=
  let key := Text.trim key
  if c.keys.contains key then none else some { c with licenses := c.licenses ++ [key] }

/-! ### Text -/

/-- The names of the members with the keys. -/
def names : List String := ["licenses", "license"]

/-- The configuration that the members of an object describe. -/
def ofMembers? (ms : List (String × Json)) : Option Configuration := do
  let licenses ← Json.field? ms "licenses" [] Json.strings?
  let license ← Json.field? ms "license" none Json.stringOrNull?
  let other := Json.ofMembers (ms.filter fun m => !names.contains m.1)
  return { licenses, license, other }

/-- The configuration that a text describes; a blank text describes the empty one. -/
def ofText? (s : String) : Option Configuration :=
  if Text.trim s = "" then some {} else (Json.document? Json.members s).bind ofMembers?

/-- The object that describes a configuration. -/
def toJson (c : Configuration) : Json :=
  .object <|
    (if c.licenses.isEmpty then [] else [("licenses", .array (c.licenses.map .string))])
      ++ (c.license.map fun key => ("license", .string key)).toList
      ++ c.other

/-- The text of a configuration in its file. -/
def text (c : Configuration) : String := c.toJson.pretty

/-! ### Files -/

/-- The configuration in the store; without a store it is empty. -/
def load : FileAction Configuration := do
  if (← get).store.isNone then
    return {}
  let text ← Files.read .store
  match ofText? text with
  | some c => return c
  | none => throw .serialization

/-- Puts the configuration into the store. -/
def save (c : Configuration) : FileAction Unit := do
  Files.makeFolder
  Files.write .store c.text

end Configuration

end Entitlement
