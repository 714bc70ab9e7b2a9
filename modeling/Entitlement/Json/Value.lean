import Entitlement.Json.Number
import Entitlement.Json.Text
import Entitlement.Sorted

/-!
# Values and their text

A `Json` value is null, a truth value, a number, a string, an array or an object. The
members of an object are kept as a list; those of an object that was read are sorted by
their names, which occur once.

`Json.write` is the text of a value in a `Layout`: on one line without blanks, or with each
element and member on a line of its own, indented by two spaces for each level.
-/

namespace Entitlement

/-- A value of a JSON text. -/
inductive Json where
  | null
  | bool (b : Bool)
  | number (x : Json.Number)
  | string (s : String)
  | array (items : List Json)
  | object (members : List (String × Json))

namespace Json

/-- The object with the members; of those with one name the last one counts. -/
def ofMembers (members : List (String × Json)) : List (String × Json) :=
  members.foldl (fun ms m => Sorted.insert m.1 m.2 ms) []

/-- The two ways to lay out a text. -/
inductive Layout where
  | compact
  | indented
deriving DecidableEq

namespace Layout

/-- What stands before an element on a level. -/
def lineBreak : Layout → (level : Nat) → List Char
  | compact, _ => []
  | indented, level => '\n' :: List.replicate (2 * level) ' '

/-- What stands between a name and its value. -/
def colon : Layout → List Char
  | compact => [':']
  | indented => [':', ' ']

end Layout

mutual

/-- The text of a value that starts on a level. -/
def write (layout : Layout) (level : Nat) : Json → List Char
  | null => ['n', 'u', 'l', 'l']
  | bool true => ['t', 'r', 'u', 'e']
  | bool false => ['f', 'a', 'l', 's', 'e']
  | number x => x.text.toList
  | string s => Quoted.encode s
  | array [] => ['[', ']']
  | array (v :: vs) =>
    '[' :: (layout.lineBreak (level + 1) ++ write layout (level + 1) v
      ++ writeItems layout (level + 1) vs ++ layout.lineBreak level ++ [']'])
  | object [] => ['{', '}']
  | object ((k, v) :: ms) =>
    '{' :: (layout.lineBreak (level + 1) ++ Quoted.encode k ++ layout.colon
      ++ write layout (level + 1) v ++ writeMembers layout (level + 1) ms
      ++ layout.lineBreak level ++ ['}'])

/-- The text of the elements after the first one. -/
def writeItems (layout : Layout) (level : Nat) : List Json → List Char
  | [] => []
  | v :: vs =>
    ',' :: (layout.lineBreak level ++ write layout level v ++ writeItems layout level vs)

/-- The text of the members after the first one. -/
def writeMembers (layout : Layout) (level : Nat) : List (String × Json) → List Char
  | [] => []
  | (k, v) :: ms =>
    ',' :: (layout.lineBreak level ++ Quoted.encode k ++ layout.colon ++ write layout level v
      ++ writeMembers layout level ms)

end

/-- The text of a value on one line. -/
def compact (v : Json) : String := String.ofList (v.write .compact 0)

/-- The text of a value with each element on a line of its own. -/
def pretty (v : Json) : String := String.ofList (v.write .indented 0)

end Json

end Entitlement
