import Entitlement.Bytes
import Entitlement.Text.NormalForm
import Entitlement.Text.Split
import Entitlement.Url.Direction
import Entitlement.Url.HostChar
import Entitlement.Url.Punycode

/-!
# Hosts

The host of an address is a name, or an IPv4 or IPv6 address. An IPv6 address stands in
brackets. A name is taken after its percent escapes have been resolved and its characters
have been replaced by what they stand for, in normal form; it consists of labels with dots
between them. One whose last label is a number has to be an IPv4 address, with up to four
numbers in decimal, octal or hexadecimal notation. `Url.isHost` decides whether a text is a
host.
-/

namespace Entitlement.Url

/-! ### Numbers -/

/-- The value of digits in a base. -/
def digitsValue (base : Nat) (cs : List Char) : Nat :=
  cs.foldl (fun n c => base * n + (Bytes.hexValue? c).getD 0) 0

/-- All characters are digits of the base. -/
def areDigits (base : Nat) (cs : List Char) : Bool :=
  cs.all fun c => (Bytes.hexValue? c).any (· < base)

/-- The value of a number in an IPv4 address: hexadecimal after `0x`, octal after `0`. -/
def ipv4Number? : List Char → Option Nat
  | [] => none
  | '0' :: 'x' :: cs | '0' :: 'X' :: cs =>
    if areDigits 16 cs then some (digitsValue 16 cs) else none
  | '0' :: cs => if areDigits 8 cs then some (digitsValue 8 cs) else none
  | cs => if areDigits 10 cs then some (digitsValue 10 cs) else none

/-! ### IPv4 -/

/-- The labels without an empty one at the end. -/
def withoutRoot (labels : List (List Char)) : List (List Char) :=
  if labels.getLast? = some [] then labels.dropLast else labels

/-- The last label is a number. -/
def endsInNumber (labels : List (List Char)) : Bool :=
  match (withoutRoot labels).getLast? with
  | none => false
  | some label => (!label.isEmpty && areDigits 10 label) || (ipv4Number? label).isSome

/-- All numbers but the last one are below 256, and the last one fits into the octets that
are left. -/
def isIpv4 (labels : List (List Char)) : Bool :=
  let parts := withoutRoot labels
  match parts.mapM ipv4Number? with
  | none => false
  | some numbers =>
    match numbers.getLast? with
    | none => false
    | some last =>
      parts.length ≤ 4 && numbers.dropLast.all (· < 256)
        && last < Nat.pow 256 (5 - numbers.length)

/-! ### IPv6 -/

/-- A number below 256 in decimal without leading zeros. -/
def isOctet (cs : List Char) : Bool :=
  !cs.isEmpty && areDigits 10 cs && (cs.length = 1 || cs.head? ≠ some '0')
    && digitsValue 10 cs < 256

/-- Four octets with dots between them. -/
def isDottedQuad (cs : List Char) : Bool :=
  let parts := Text.split '.' cs
  parts.length = 4 && parts.all isOctet

/-- The rest of an IPv6 address after `pieces` pieces, one of which is the place of left
out zeros if `compressed`. -/
def isIpv6From (pieces : Nat) (compressed : Bool) (cs : List Char) : Bool :=
  match cs with
  | [] => compressed || pieces = 8
  | ':' :: cs => pieces < 8 && !compressed && isIpv6From (pieces + 1) true cs
  | c :: cs =>
    let digits := ((c :: cs).take 4).takeWhile fun d => areDigits 16 [d]
    match h : (c :: cs).drop digits.length with
    | [] => pieces < 8 && isIpv6From (pieces + 1) compressed []
    | '.' :: _ =>
      pieces ≤ 6 && !digits.isEmpty && isDottedQuad (c :: cs)
        && (compressed || pieces = 6)
    | ':' :: rest =>
      have shorter : rest.length < cs.length + 1 := by
        have := congrArg List.length h
        simp only [List.length_drop, List.length_cons] at this
        omega
      pieces < 8 && !rest.isEmpty && isIpv6From (pieces + 1) compressed rest
    | _ => false
termination_by cs.length
decreasing_by all_goals simp only [List.length_cons, List.length_nil]; omega

/-- An IPv6 address. -/
def isIpv6 : List Char → Bool
  | ':' :: ':' :: cs => isIpv6From 1 true cs
  | ':' :: _ | [] | [_] => false
  | cs => isIpv6From 0 false cs

/-! ### Names -/

/-- The characters that a label with others than those of ASCII may have at most. -/
def maxLabel : Nat := 1000

/-- The characters that an encoded label may have at most. -/
def maxEncoded : Nat := 2000

/-- No mark stands first, all joiners make a difference, and the label is not too long. -/
def isLabel (label : List Char) : Bool :=
  !label.head?.any Text.isMark && joinersFit [] label
    && (label.all isAscii || label.length ≤ maxLabel)

/-- The label that an encoded one stands for. It has only such characters as host names keep,
and is in normal form. -/
def encodedLabel? (digits : List Char) : Option (List Char) :=
  if digits.all isAscii && digits.length ≤ maxEncoded && digits.getLast?.any (· ≠ '-') then
    (Punycode.decode? digits).filter fun label =>
      label.all isKept && Text.normalForm label = label
  else none

/-- What a label stands for, if it is allowed. -/
def label? (label : List Char) : Option (List Char) :=
  let label := match label with
    | 'x' :: 'n' :: '-' :: '-' :: digits => encodedLabel? digits
    | label => some label
  label.filter isLabel

/-- What the labels of a name stand for, if all are allowed. -/
def hostLabels? (name : List Char) : Option (List (List Char)) := do
  let name := Text.normalForm (← name.mapM hostChar?).flatten
  if name.any isForbidden then none
  let labels ← (Text.split '.' name).mapM label?
  if areReadable labels then some labels else none

/-- The octets of characters, with percent escapes resolved. -/
def unescape : List Char → Bytes
  | [] => []
  | '%' :: a :: b :: cs =>
    match Bytes.hexValue? a, Bytes.hexValue? b with
    | some high, some low => UInt8.ofNat (16 * high + low) :: unescape cs
    | _, _ => 0x25 :: unescape (a :: b :: cs)
  | c :: cs => Bytes.ofText (String.singleton c) ++ unescape cs

/-- The text is a host. -/
def isHost (cs : List Char) : Bool :=
  match cs with
  | '[' :: rest => rest.getLast? = some ']' && isIpv6 rest.dropLast
  | cs =>
    match (Bytes.toText? (unescape cs)).bind fun s => hostLabels? s.toList with
    | none => false
    | some labels => labels ≠ [[]] && (!endsInNumber labels || isIpv4 labels)

end Entitlement.Url
