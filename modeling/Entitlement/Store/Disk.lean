import Entitlement.Bytes
import Entitlement.Sorted
import Entitlement.License.Error
import Entitlement.Text.Split

/-!
# A disk

A `Disk` is a folder with files and folders in it, one of which is the home folder. A path
starts at the folder of the disk if its text begins with a slash, and at the home folder
otherwise; its components are followed one by one, and each but the last must be a folder. Neither the text of a path nor a name in it may
be too long. A file is replaced as a whole: its contents are first put into a temporary file
beside it, so the path and the name of that file must not be too long either.

A `DiskAction` works on a disk and may fail; folders that were made until then stay.
-/

namespace Entitlement

/-- What a path may lead to. -/
inductive Entry where
  | file (contents : Bytes)
  | folder
deriving DecidableEq

/-- The files and folders by the names that lead to them. -/
structure Disk where
  /-- The names that lead to the home folder. -/
  home : List String
  entries : List (List String × Entry)

/-- What changes a disk and may fail. -/
abbrev DiskAction (α : Type) := ExceptT IoErrorKind (StateM Disk) α

/-- A path is given by the parts of its text between the slashes. A part is a name, `.` for
the folder itself, `..` for the one above, or empty. -/
structure DiskPath where
  parts : List String

namespace DiskPath

/-- The path that a text stands for, with the names that lead to the home folder. -/
def ofText (home : List String) (s : String) : DiskPath :=
  let parts := (Text.split '/' s.toList).map String.ofList
  if 1 < parts.length && parts.head? = some "" then ⟨parts⟩ else ⟨"" :: home ++ parts⟩

/-- The parts that lead somewhere. -/
def components (p : DiskPath) : List String := p.parts.filter (· ≠ "")

/-- A slash ends the path. -/
def endsInSlash (p : DiskPath) : Bool := p.parts.getLast? = some ""

/-- The part stays where it is. -/
def isIdle (part : String) : Bool := part = "" || part = "."

/-- The octets of the text of a path. -/
def octets (p : DiskPath) : Nat :=
  ("/".intercalate p.parts).utf8ByteSize

/-- The path of the folder that the last name of a path lies in, and this name. -/
def splitLast? (p : DiskPath) : Option (DiskPath × String) :=
  match p.parts.reverse.dropWhile isIdle with
  | [] => none
  | last :: before => some (⟨(before.dropWhile isIdle).reverse⟩, last)

theorem length_splitLast? {p before : DiskPath} {last : String}
    (h : p.splitLast? = some (before, last)) :
  before.parts.length < p.parts.length
  := by
  simp only [splitLast?] at h
  split at h
  next => cases h
  next l b hc =>
    cases h
    have all := (List.dropWhile_sublist (l := p.parts.reverse) isIdle).length_le
    have some := (List.dropWhile_sublist (l := b) isIdle).length_le
    simp only [hc, List.length_cons, List.length_reverse] at all some ⊢
    omega

/-- The path of something in a folder. -/
def inside (p : DiskPath) (name : String) : DiskPath := ⟨p.parts ++ [name]⟩

end DiskPath

namespace Disk

/-- The disk that has nothing but the home folder and the folders above it. -/
def empty (home : List String) : Disk where
  home
  entries := (List.range home.length).map fun n => (home.take (n + 1), .folder)

/-- The octets that a name may have at most. -/
def maxName : Nat := 255

/-- The octets that the text of a path may have at most. -/
def maxPath : Nat := 4095

/-- The name of a temporary file for a file with the given name. What makes it unique are
32 digits, which are left open. -/
def temporaryName (name : String) : String :=
  "." ++ name ++ "." ++ String.ofList (List.replicate 32 '0') ++ ".tmp"

/-- What a list of names leads to. -/
def find? (d : Disk) (names : List String) : Option Entry :=
  if names.isEmpty then some .folder
  else (d.entries.find? fun e => e.1 = names).map (·.2)

/-- The disk with an entry. -/
def put (d : Disk) (names : List String) (e : Entry) : Disk :=
  { d with entries := (names, e) :: d.entries.filter fun e => e.1 ≠ names }

/-! ### Following paths -/

/-- The names that lead to where a component leads from a folder. -/
def enter (d : Disk) (here : List String) (component : String) :
    Except IoErrorKind (List String) :=
  match d.find? here with
  | none => .error .notFound
  | some (.file _) => .error .notADirectory
  | some .folder =>
    if component = "." then .ok here
    else if component = ".." then .ok here.dropLast
    else if maxName < component.utf8ByteSize then .error (.lasting "InvalidFilename")
    else .ok (here ++ [component])

/-- The names that lead to where a path leads. -/
def follow (d : Disk) (p : DiskPath) : Except IoErrorKind (List String) :=
  if p.parts.any (·.contains '\x00') then .error .invalidInput
  else if maxPath < p.octets then .error (.lasting "InvalidFilename")
  else p.components.foldlM d.enter []

/-- What a path leads to, with the names that lead there. -/
def resolve (d : Disk) (p : DiskPath) : Except IoErrorKind (List String × Option Entry) := do
  let names ← d.follow p
  match d.find? names with
  | some (.file b) => if p.endsInSlash then throw .notADirectory else return (names, some (.file b))
  | e => return (names, e)

/-! ### Reading -/

/-- There is something at the path. -/
def pathExists (d : Disk) (p : DiskPath) : Bool :=
  match d.resolve p with
  | .ok (_, some _) => true
  | _ => false

/-- The text in a file. -/
def read (d : Disk) (p : DiskPath) : Except IoErrorKind String := do
  match (← d.resolve p).2 with
  | none => throw .notFound
  | some .folder => throw .isADirectory
  | some (.file b) =>
    match Bytes.toText? b with
    | some s => return s
    | none => throw .invalidData

/-- The names in a folder, sorted. -/
def list (d : Disk) (p : DiskPath) : Except IoErrorKind (List String) := do
  let (names, e) ← d.resolve p
  match e with
  | none => throw .notFound
  | some (.file _) => throw .notADirectory
  | some .folder =>
    let inside := d.entries.filterMap fun e =>
      if e.1.dropLast = names then e.1.getLast? else none
    return (inside.foldl (fun ps n => Sorted.insert n () ps) []).map (·.1)

/-! ### Writing -/

/-- Puts octets into a file. -/
def writeBytes (p : DiskPath) (b : Bytes) : DiskAction Unit := do
  let d ← get
  let names ← d.follow p
  if p.endsInSlash || d.find? names = some .folder then throw .isADirectory
  set (d.put names (.file b))

/-- Replaces a file by one with a text. -/
def replace (p : DiskPath) (s : String) : DiskAction Unit := do
  let d ← get
  match p.splitLast? with
  | none | some (_, "..") => throw .invalidInput
  | some (before, name) => let _ ← d.follow (before.inside (temporaryName name))
  let names ← d.follow p
  if p.components.getLast? = some "." then throw .resourceBusy
  if p.endsInSlash then throw .notADirectory
  if d.find? names = some .folder then throw .isADirectory
  set (d.put names (.file (Bytes.ofText s)))

/-! ### Folders -/

/-- Makes a folder in one that exists. -/
def makeOne (p : DiskPath) : DiskAction Unit := do
  let d ← get
  let names ← d.follow p
  if (d.find? names).isSome then throw .alreadyExists
  set (d.put names .folder)

/-- Goes on after an error if there is a folder already. -/
def unlessFolder (p : DiskPath) (e : IoErrorKind) : DiskAction Unit := do
  match (← get).resolve p with
  | .ok (_, some .folder) => pure ()
  | _ => throw e

/-- Makes a folder, and before it those above it that are missing. -/
def makeFolder (p : DiskPath) : DiskAction Unit :=
  tryCatch (makeOne p) fun e =>
    if e = .notFound then
      match h : p.splitLast? with
      | none => throw e
      | some (before, _) => do
        have := DiskPath.length_splitLast? h
        makeFolder before
        tryCatch (makeOne p) (unlessFolder p)
    else unlessFolder p e
termination_by p.parts.length

end Disk

end Entitlement
