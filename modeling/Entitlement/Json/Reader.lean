import Entitlement.Json.Value

/-!
# Reading

A `Json.Reader` takes something off the front of a text, or refuses the text. `items` reads
elements between brackets and `member` a name with its value, whatever these are;
`Parts.value` puts them together for values that are nested up to a depth. There are two
sets of parts: `Parts.kept` makes `Json` values, and `Parts.skipped` finds the end of a
value that nobody wants, with fewer demands on it.

`Json.document?` reads a text that consists of one thing with blanks around it.
-/

namespace Entitlement.Json

/-- What takes a value off the front of a text. -/
abbrev Reader (α : Type) := List Char → Option (α × List Char)

/-- The character may stand between the parts of a text. -/
def isBlank (c : Char) : Bool :=
  c = ' ' || c = '\n' || c = '\t' || c = '\r'

/-- The text from its first character that is not blank on. -/
def skipBlank (cs : List Char) : List Char :=
  cs.dropWhile isBlank

variable {α κ : Type}

/-! ### Elements and members -/

/-- The elements that follow after commas, up to the closing bracket. -/
def moreItems (item : Reader α) (close : Char) : (fuel : Nat) → Reader (List α)
  | 0, _ => none
  | fuel + 1, cs =>
    match skipBlank cs with
    | [] => none
    | ',' :: cs => do
      let (a, cs) ← item (skipBlank cs)
      let (as, cs) ← moreItems item close fuel cs
      return (a :: as, cs)
    | c :: cs => if c = close then some ([], cs) else none

/-- The elements behind the opening bracket, up to the closing one. -/
def items (item : Reader α) (close : Char) : Reader (List α) := fun cs =>
  match skipBlank cs with
  | [] => none
  | c :: cs =>
    if c = close then some ([], cs)
    else do
      let (a, cs) ← item (c :: cs)
      let (as, cs) ← moreItems item close (cs.length + 1) cs
      return (a :: as, cs)

/-- A name and its value, which may be read differently for each name. -/
def member (name : Reader κ) (value : κ → Reader α) : Reader (κ × α)
  | '"' :: cs => do
    let (k, cs) ← name cs
    match skipBlank cs with
    | ':' :: cs =>
      let (v, cs) ← value k (skipBlank cs)
      return ((k, v), cs)
    | _ => none
  | _ => none

/-! ### Values -/

/-- How the parts of a value are read and what is made of them. -/
structure Parts (κ α : Type) where
  null : α
  bool : Bool → α
  number : Reader α
  /-- A string behind its opening quote. -/
  string : Reader α
  /-- The name of a member behind its opening quote. -/
  name : Reader κ
  array : List α → α
  object : List (κ × α) → α

namespace Parts

/-- A value that is neither array nor object. -/
def scalar (p : Parts κ α) : Reader α
  | 'n' :: 'u' :: 'l' :: 'l' :: cs => some (p.null, cs)
  | 't' :: 'r' :: 'u' :: 'e' :: cs => some (p.bool true, cs)
  | 'f' :: 'a' :: 'l' :: 's' :: 'e' :: cs => some (p.bool false, cs)
  | '"' :: cs => p.string cs
  | cs => p.number cs

/-- A value in which arrays and objects are nested up to the depth. -/
def value (p : Parts κ α) : (depth : Nat) → Reader α
  | 0, cs => p.scalar cs
  | depth + 1, '[' :: cs => do
    let (vs, cs) ← items (p.value depth) ']' cs
    return (p.array vs, cs)
  | depth + 1, '{' :: cs => do
    let (ms, cs) ← items (member p.name fun _ => p.value depth) '}' cs
    return (p.object ms, cs)
  | _ + 1, cs => p.scalar cs

end Parts

/-- A string behind its opening quote. -/
def readString : Reader String := fun cs =>
  (Quoted.decode cs).map fun (s, cs) => (String.ofList s, cs)

/-- The parts of values. -/
def Parts.kept : Parts String Json where
  null := .null
  bool := .bool
  number cs := (Number.read? cs).map fun (x, cs) => (.number x, cs)
  string cs := (readString cs).map fun (s, cs) => (.string s, cs)
  name := readString
  array := .array
  object ms := .object (ofMembers ms)

/-- The parts of values of which nothing is kept. -/
def Parts.skipped : Parts Unit Unit where
  null := ()
  bool _ := ()
  number cs := (Numeral.read? cs).map fun (_, cs) => ((), cs)
  string cs := (Quoted.skip cs).map fun cs => ((), cs)
  name cs := (Quoted.skip cs).map fun cs => ((), cs)
  array _ := ()
  object _ := ()

/-! ### Texts -/

/-- How deep arrays and objects may be nested in a text. -/
def maxDepth : Nat := 127

/-- A value inside the outermost array or object of a text. -/
def inner : Reader Json := Parts.kept.value (maxDepth - 1)

/-- A value of any depth inside a text, of which nothing is kept. -/
def skipValue : Reader Unit := fun cs => Parts.skipped.value cs.length cs

/-- What a reader takes off a text, if only blanks are left of it. -/
def document? (r : Reader α) (s : String) : Option α := do
  let (a, cs) ← r (skipBlank s.toList)
  if (skipBlank cs).isEmpty then some a else none

/-- The members of an object, in the order of the text. -/
def members : Reader (List (String × Json))
  | '{' :: cs => items (member readString fun _ => inner) '}' cs
  | _ => none

end Entitlement.Json
