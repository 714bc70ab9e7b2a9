import Entitlement.Json.Fields
import Entitlement.Store.Retry

/-!
# Settings

`Options` say where files are kept, how long an evaluation lasts and how long it takes
until the next one, and how often to try again when a file is in use. They are read from a
JSON text; what it does not say is taken from a default.
-/

namespace Entitlement

/-- The path of a name in a folder. -/
def joinPath (folder name : String) : String :=
  if folder = "" then name
  else if folder.endsWith "/" then folder ++ name
  else folder ++ "/" ++ name

/-- The settings of the program. -/
structure Options where
  licenseStorePath : String
  evaluationRecordPath : String
  lockFolder : String
  /-- The number of days that an evaluation lasts. -/
  evaluationDays : UInt32 := 45
  /-- The number of days after an evaluation until the next one may start. -/
  cooldownDays : UInt32 := 120
  retryAttempts : UInt32 := 10
  /-- The milliseconds between two attempts. -/
  retryDelay : UInt64 := 100
deriving DecidableEq

namespace Options

/-- The settings with all files in one folder. -/
def inFolder (folder : String) : Options where
  licenseStorePath := joinPath folder "licensing.json"
  evaluationRecordPath := joinPath folder "evaluation.json"
  lockFolder := joinPath folder "locks"

/-- The settings for a user with a home folder, with locks among the temporary files. -/
def forUser (home temporary : String) : Options where
  licenseStorePath := joinPath home ".config/tollgate/licensing.json"
  evaluationRecordPath := joinPath home ".local/share/tollgate/evaluation.json"
  lockFolder := joinPath temporary "tollgate-locks"

/-- How to try again when a file is in use. -/
def retryPolicy (o : Options) : RetryPolicy :=
  ⟨max o.retryAttempts 1, o.retryDelay⟩

/-! ### Text -/

/-- The names of the settings. -/
def names : List String :=
  ["licenseStorePath", "evaluationRecordPath", "lockDir", "evaluationPeriodDays",
    "noEvaluationPeriodDays", "ioRetryAttempts", "ioRetryDelayMs"]

/-- The 32-bit word that a value is. -/
def word32? (v : Json) : Option UInt32 := (v.natBelow? UInt32.size).map UInt32.ofNat

/-- The 64-bit word that a value is. -/
def word64? (v : Json) : Option UInt64 := (v.natBelow? UInt64.size).map UInt64.ofNat

/-- The settings that the members of an object describe. -/
def ofMembers? (default : Options) (ms : List (String × Json)) : Option Options := do
  let field {α : Type} := Json.field? (α := α) ms
  return {
    licenseStorePath := ← field "licenseStorePath" default.licenseStorePath Json.string?
    evaluationRecordPath :=
      ← field "evaluationRecordPath" default.evaluationRecordPath Json.string?
    lockFolder := ← field "lockDir" default.lockFolder Json.string?
    evaluationDays := ← field "evaluationPeriodDays" default.evaluationDays word32?
    cooldownDays := ← field "noEvaluationPeriodDays" default.cooldownDays word32?
    retryAttempts := ← field "ioRetryAttempts" default.retryAttempts word32?
    retryDelay := ← field "ioRetryDelayMs" default.retryDelay word64? }

/-- The settings that a text describes. -/
def ofText (default : Options) (s : String) : Except LicenseError Options :=
  match (Json.document? (Json.fields names 0) s).bind (ofMembers? default) with
  | some o => .ok o
  | none => .error .serialization

end Options

end Entitlement
