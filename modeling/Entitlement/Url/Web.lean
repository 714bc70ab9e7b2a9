import Entitlement.Url.Host

/-!
# Web addresses

`Url.isWebAddress` decides whether a text is the address of a web server: the scheme `http`
or `https`, a colon, any number of slashes of either direction, an optional user with an
`@`, a host, and an optional number. A path, a query or a fragment may follow. Controls and
spaces around the text and line breaks and tabs in it do not count.
-/

namespace Entitlement.Url

/-- The character is a control of ASCII or a space. -/
def isControlOrSpace (c : Char) : Bool := c.toNat ≤ 0x20

/-- The character is a tab or breaks a line. -/
def isBreak (c : Char) : Bool := c = '\t' || c = '\n' || c = '\r'

/-- The characters of a text that count. -/
def significant (cs : List Char) : List Char :=
  let cs := cs.dropWhile isControlOrSpace
  let cs := (cs.reverse.dropWhile isControlOrSpace).reverse
  cs.filter fun c => !isBreak c

/-- A character of a scheme after the first. -/
def isSchemeChar (c : Char) : Bool :=
  c.isAlphanum || c = '+' || c = '-' || c = '.'

/-- The scheme of an address in lowercase, and what follows its colon. A scheme begins with
a letter. -/
def scheme? (cs : List Char) : Option (List Char × List Char) :=
  match cs with
  | [] => none
  | c :: _ =>
    if c.isAlpha then
      match cs.dropWhile isSchemeChar with
      | ':' :: rest => some ((cs.takeWhile isSchemeChar).map Char.toLower, rest)
      | _ => none
    else none

/-- The character is a slash of either direction. -/
def isSlash (c : Char) : Bool := c = '/' || c = '\\'

/-- The character ends the host and what belongs to it. -/
def endsAuthority (c : Char) : Bool := isSlash c || c = '?' || c = '#'

/-- The part of a text after the last `@`. -/
def afterUser (cs : List Char) : List Char :=
  (cs.reverse.takeWhile (· ≠ '@')).reverse

/-- The text up to the first colon outside brackets, and from it on. -/
def splitNumber (bracketed : Bool) : List Char → List Char × List Char
  | [] => ([], [])
  | c :: cs =>
    if c = ':' && !bracketed then ([], c :: cs)
    else
      let bracketed := if c = '[' then true else if c = ']' then false else bracketed
      let (host, number) := splitNumber bracketed cs
      (c :: host, number)

/-- Nothing, or a colon with a number below 65536, which may be left out. -/
def isServiceNumber : List Char → Bool
  | [] => true
  | _ :: cs => areDigits 10 cs && digitsValue 10 cs < 65536

/-- The text is the address of a web server. -/
def isWebAddress (text : String) : Bool :=
  match scheme? (significant text.toList) with
  | none => false
  | some (scheme, rest) =>
    (scheme = ['h', 't', 't', 'p'] || scheme = ['h', 't', 't', 'p', 's']) &&
      let authority := (rest.dropWhile isSlash).takeWhile fun c => !endsAuthority c
      let (host, number) := splitNumber false (afterUser authority)
      isHost host && isServiceNumber number

end Entitlement.Url
