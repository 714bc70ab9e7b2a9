import Entitlement.Key.Error

/-!
# Failures

`LicenseError` lists why a license cannot be had, or grants nothing, or cannot be kept, and
`LicenseError.message` words it. Errors of input and output are of some kind; those of the
kinds that come from another program using the file are transient, and it is worth trying
again.
-/

namespace Entitlement

/-- The kinds of errors of input and output. -/
inductive IoErrorKind where
  | wouldBlock
  | resourceBusy
  | interrupted
  | timedOut
  /-- A kind that does not pass by itself, with its name. -/
  | lasting (name : String)
deriving DecidableEq

namespace IoErrorKind

/-- The name of a kind. -/
def name : IoErrorKind → String
  | wouldBlock => "WouldBlock"
  | resourceBusy => "ResourceBusy"
  | interrupted => "Interrupted"
  | timedOut => "TimedOut"
  | lasting name => name

/-- The kind with a name. -/
def ofName (name : String) : IoErrorKind :=
  if name = "WouldBlock" then wouldBlock
  else if name = "ResourceBusy" then resourceBusy
  else if name = "Interrupted" then interrupted
  else if name = "TimedOut" then timedOut
  else lasting name

/-- The error may be gone the next time. -/
def isTransient : IoErrorKind → Bool
  | lasting _ => false
  | _ => true

def notFound : IoErrorKind := lasting "NotFound"
def invalidInput : IoErrorKind := lasting "InvalidInput"
def invalidData : IoErrorKind := lasting "InvalidData"
def alreadyExists : IoErrorKind := lasting "AlreadyExists"
def notADirectory : IoErrorKind := lasting "NotADirectory"
def isADirectory : IoErrorKind := lasting "IsADirectory"

end IoErrorKind

/-- An error of input or output. -/
structure IoError where
  kind : IoErrorKind
  message : String
deriving DecidableEq

/-- What every license key must have and one lacks. -/
inductive RequiredField where
  | licenseType
  | signatureKeyId
deriving DecidableEq

/-- The wording of a required field. -/
def RequiredField.phrase : RequiredField → String
  | licenseType => "license type"
  | signatureKeyId => "signature key id"

/-- Why the fields of a license make no sense. -/
inductive PayloadFault where
  | unknownKind (code : UInt8)
  /-- The evaluation would end after the last day of the calendar. -/
  | evaluationOutOfRange
deriving DecidableEq

/-- The wording of a fault. -/
def PayloadFault.message : PayloadFault → String
  | unknownKind code => s!"unknown license type {code.toNat}"
  | evaluationOutOfRange => "evaluation period out of range"

/-- Why a license cannot be had, or grants nothing, or cannot be kept. -/
inductive LicenseError where
  /-- There is no text. -/
  | empty
  /-- The text is the address of a license server. -/
  | serverNotSupported
  | invalidKey (e : KeyError)
  | missingSignature
  | unknownSignatureKey (id : UInt8)
  | invalidSignature
  | invalidPublicKey (id : UInt8)
  | revoked (id : Int32)
  | missingField (field : RequiredField)
  | invalidPayload (fault : PayloadFault)
  | io (e : IoError)
  /-- A file is not of the form it should have. -/
  | serialization
  /-- The lock of a file cannot be had. -/
  | lock
deriving DecidableEq

namespace LicenseError

/-- The wording of an error. -/
def message : LicenseError → String
  | empty => "license key is empty"
  | serverNotSupported => "license server not supported"
  | invalidKey e => s!"invalid license key format: {e.message}"
  | missingSignature => "license key is not signed"
  | unknownSignatureKey id => s!"license key is signed with unknown key {id.toNat}"
  | invalidSignature => "license key signature invalid"
  | invalidPublicKey id => s!"public key {id.toNat} is malformed"
  | revoked id => s!"license {id} has been revoked"
  | missingField field => s!"license key has no {field.phrase}"
  | invalidPayload fault => s!"invalid license payload: {fault.message}"
  | io e => s!"I/O error: {e.message}"
  | serialization => "serialization error"
  | lock => "lock error"

/-- It is worth trying again. -/
def isTransient : LicenseError → Bool
  | io e => e.kind.isTransient
  | _ => false

/-- A file in use by another program. -/
def busy (message : String) : LicenseError :=
  io ⟨.resourceBusy, message⟩

/-- What comes of a key, where its errors are errors about a license. -/
def ofKey {α : Type} (x : Except KeyError α) : Except LicenseError α :=
  x.mapError invalidKey

end LicenseError

end Entitlement
