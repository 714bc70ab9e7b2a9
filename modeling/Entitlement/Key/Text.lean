import Entitlement.Key.Reader
import Entitlement.Key.Symbols

/-!
# Key texts

The text of a license key is the number of its version, a dash, and the symbols of its
payload. `DecodedKey.ofText` reads a text and `Payload.keyText` writes one. Dashes and
blank characters among the symbols have no meaning; `KeyText.grouped` puts a dash after
every few symbols.
-/

namespace Entitlement

/-- The versions of key texts. -/
inductive KeyVersion where
  | v1
  | v2
deriving DecidableEq

namespace KeyVersion

/-- The version in which keys are written unless another is asked for. -/
def current : KeyVersion := v2

/-- The number of a version. -/
def number : KeyVersion → Nat
  | v1 => 1
  | v2 => 2

/-- The text of a version. -/
def toText (v : KeyVersion) : String :=
  toString v.number

/-- The text of a version is one digit. -/
theorem exists_digit (v : KeyVersion) :
  ∃ c, v.toText.toList = [c] ∧ c ∈ ['1', '2']
  := by
  cases v with
  | v1 => exact ⟨'1', rfl, by decide⟩
  | v2 => exact ⟨'2', rfl, by decide⟩

/-- Keys of the version name the key that signed them. -/
def namesSigner : KeyVersion → Bool
  | v1 => false
  | v2 => true

/-- The version that a text in front of the first dash stands for. -/
def ofChars (cs : List Char) : Except KeyError KeyVersion :=
  match Text.trimChars cs with
  | ['1'] => .ok v1
  | ['2'] => .ok v2
  | other => .error (.unsupportedVersion (String.ofList other))

/-- The version that a text stands for. -/
def ofText (s : String) : Except KeyError KeyVersion :=
  ofChars s.toList

end KeyVersion

/-- The latest version of readers that a key can ask for and be read. -/
def readerVersion : Int16 := 2

/-- A license key that has been read. -/
structure DecodedKey where
  version : KeyVersion
  /-- The octets of the symbols. -/
  octets : Bytes
  decoded : Decoded
deriving DecidableEq

namespace DecodedKey

/-- The fields of the key. -/
def payload (k : DecodedKey) : Payload :=
  k.decoded.payload

/-- Some record follows that of the signature. -/
def fieldsAfterSignature (k : DecodedKey) : Bool :=
  k.decoded.fieldsAfterSignature

/-- The octets that the signature is made for, if it stands last. -/
def signedBytes? (k : DecodedKey) : Option Bytes :=
  if k.decoded.fieldsAfterSignature then none
  else k.decoded.signatureOffset.map fun n => k.octets.take n

end DecodedKey

namespace KeyText

/-- The characters before and after the first dash, once blank ones at the ends are off. -/
def split? (cs : List Char) : Option (List Char × List Char) :=
  let cs := Text.trimChars cs
  match cs.dropWhile (· ≠ '-') with
  | [] => none
  | _ :: body => some (cs.takeWhile (· ≠ '-'), body)

/-- Lists of `n + 1` characters each, the last one of as many as are left. -/
def chunks (n : Nat) : List Char → List (List Char)
  | [] => []
  | c :: cs => (c :: cs.take n) :: chunks n (cs.drop n)
termination_by cs => cs.length
decreasing_by
  simp only [List.length_drop, List.length_cons]
  omega

/-- The key text with its symbols in groups of `n`, or as they are when `n` is zero. A text
without a dash is only trimmed. -/
def grouped (key : String) (n : Nat) : String :=
  match split? key.toList with
  | none => Text.trim key
  | some (version, body) =>
    let symbols := match n with
      | 0 => body
      | n + 1 =>
        (chunks n (body.filter fun c => !Symbols.isSeparator c)).intersperse ['-'] |>.flatten
    String.ofList (version ++ '-' :: symbols)

end KeyText

/-- The payload does not ask for a later reader than this one. -/
def Payload.checkReader (p : Payload) : Except KeyError Unit :=
  match p.int16? .minRequiredReaderVersion with
  | some required =>
    if required ≤ readerVersion then .ok () else .error (.readerTooOld required readerVersion)
  | none => .ok ()

/-- The license key that a text stands for. -/
def DecodedKey.ofText (s : String) : Except KeyError DecodedKey :=
  match KeyText.split? s.toList with
  | none => .error .missingVersion
  | some (version, body) => do
    let version ← KeyVersion.ofChars version
    let octets ← Symbols.decode body
    let decoded ← Payload.decode octets
    decoded.payload.checkReader
    return ⟨version, octets, decoded⟩

/-- The text of the license key of a version with the fields of the payload. -/
def Payload.keyText (version : KeyVersion) (p : Payload) : Except KeyError String := do
  let octets ← p.encode
  return version.toText ++ "-" ++ String.ofList (Symbols.encode octets)

end Entitlement
