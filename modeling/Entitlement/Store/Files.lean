import Entitlement.License.Error

/-!
# Files

The program keeps two files: the store of the registered licenses and the record of the
last evaluation. `Files` is the state of both, with what was read and written so far, and
with what is still to fail. A failing operation may leave other contents in a file, which
another program has put there. What is to fail is given operation by operation in a schedule,
and after its end by faults: a fault makes a number of operations of one sort on one file
fail.

A `FileAction` works on files and may fail; what it has done until then is done.
-/

namespace Entitlement

/-- The files of the program. -/
inductive FileName where
  | store
  | record
deriving DecidableEq

/-- What can be done with a file and can fail. -/
inductive FileOperation where
  | read
  | write
  | makeFolder
deriving DecidableEq

/-- The word for an operation. -/
def FileOperation.word : FileOperation → String
  | read => "read"
  | write => "write"
  | makeFolder => "mkdir"

/-- The failing of an operation. -/
structure Failure where
  kind : IoErrorKind
  /-- The contents that come into a file with it. -/
  replacement : Option (FileName × String)
deriving DecidableEq

/-- A reason for operations to fail. -/
structure Fault where
  file : FileName
  operation : FileOperation
  kind : IoErrorKind
  /-- How often it is still to happen. -/
  count : Nat
  /-- The contents that it puts into a file the next time it happens. -/
  replacement : Option (FileName × String)
deriving DecidableEq

/-- The fault concerns the operation on the file. -/
def Fault.hits (f : Fault) (file : FileName) (operation : FileOperation) : Bool :=
  f.file = file && f.operation = operation && 0 < f.count

/-- What the fault makes of an operation. -/
def Fault.failure (f : Fault) : Failure := ⟨f.kind, f.replacement⟩

/-- The writing of a file. -/
structure Write where
  file : FileName
  /-- The contents of the file before. -/
  before : Option String
  text : String
deriving DecidableEq

/-- The files and what happens with them. -/
structure Files where
  store : Option String := none
  record : Option String := none
  /-- The number of attempts to read. -/
  reads : Nat := 0
  /-- What was written, the first first. -/
  written : List Write := []
  /-- How the next operations fail, if they do. -/
  schedule : List (Option Failure) := []
  /-- What makes operations fail after those in the schedule. -/
  faults : List Fault := []
deriving DecidableEq

/-- What works on a state and may fail. -/
abbrev Action (σ α : Type) := ExceptT LicenseError (StateM σ) α

/-- What works on files and may fail. -/
abbrev FileAction (α : Type) := Action Files α

namespace Files

/-- The contents of a file. -/
def contents (f : Files) : FileName → Option String
  | .store => f.store
  | .record => f.record

/-- The files with other contents in one, or without it. -/
def put (f : Files) (file : FileName) (text : Option String) : Files :=
  match file with
  | .store => { f with store := text }
  | .record => { f with record := text }

/-- The number of times something was written. -/
def writes (f : Files) : Nat := f.written.length

/-- What the first fault that concerns an operation makes of it, and the faults after it. -/
def strike (file : FileName) (operation : FileOperation) :
    List Fault → Option Failure × List Fault
  | [] => (none, [])
  | f :: fs =>
    if f.hits file operation then
      (some f.failure, { f with count := f.count - 1, replacement := none } :: fs)
    else
      let (g, gs) := strike file operation fs
      (g, f :: gs)

/-- How an operation fails, if it does, and the files with what is to fail after it. -/
def next (f : Files) (file : FileName) (operation : FileOperation) : Option Failure × Files :=
  match f.schedule with
  | failure :: schedule => (failure, { f with schedule })
  | [] =>
    let (failure, faults) := strike file operation f.faults
    (failure, { f with faults })

/-- The files after something has failed. -/
def afterFailure (f : Files) (failure : Failure) : Files :=
  match failure.replacement with
  | none => f
  | some (file, text) => f.put file (some text)

/-- The operation fails if it is to fail. -/
def attempt (file : FileName) (operation : FileOperation) : FileAction Unit := do
  let (failure, f) := (← get).next file operation
  match failure with
  | none => set f
  | some failure =>
    set (f.afterFailure failure)
    throw (.io ⟨failure.kind, operation.word ++ " failed"⟩)

/-- The contents of a file that there is. -/
def read (file : FileName) : FileAction String := do
  modify fun f => { f with reads := f.reads + 1 }
  attempt file .read
  match (← get).contents file with
  | some text => return text
  | none => throw (.io ⟨.notFound, "no such file"⟩)

/-- The files after contents have been put into one by the program. -/
def afterWrite (f : Files) (file : FileName) (text : String) : Files :=
  { f.put file (some text) with written := f.written ++ [⟨file, f.contents file, text⟩] }

/-- Puts contents into a file. -/
def write (file : FileName) (text : String) : FileAction Unit := do
  attempt file .write
  modify fun f => f.afterWrite file text

/-- Makes the folder of the files. -/
def makeFolder : FileAction Unit :=
  attempt .store .makeFolder

end Files

end Entitlement
