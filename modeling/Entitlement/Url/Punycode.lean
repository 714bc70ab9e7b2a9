/-!
# Punycode

Punycode writes a text in letters, digits and dashes of ASCII. The characters of ASCII in
the text stand first, and after the last dash follow, as numbers of variable length, the
other characters with their places. `Punycode.decode?` reads such a text.
-/

namespace Entitlement.Url.Punycode

/-- The value of a digit in base 36. -/
def digit? (c : Char) : Option Nat :=
  if 'a' ≤ c ∧ c ≤ 'z' then some (c.toNat - 97)
  else if 'A' ≤ c ∧ c ≤ 'Z' then some (c.toNat - 65)
  else if '0' ≤ c ∧ c ≤ '9' then some (c.toNat - 22)
  else none

/-- The least digit that does not end a number, `k` places into it. -/
def threshold (k bias : Nat) : Nat :=
  min 26 (max 1 (k - bias))

/-- A number, unless it has more than 32 bits. -/
def word? (n : Nat) : Option Nat := if n < 0x100000000 then some n else none

/-- The number at the front of a text, added to `i` with the weight `w`, and the rest. No
number on the way may have more than 32 bits. -/
def number? (i w k bias : Nat) : List Char → Option (Nat × List Char)
  | [] => none
  | c :: cs =>
    match digit? c with
    | none => none
    | some d =>
      let t := threshold k bias
      match word? (d * w), word? (i + d * w) with
      | some _, some i =>
        if d < t then some (i, cs)
        else
          match word? (w * (36 - t)) with
          | none => none
          | some w => number? i w (k + 36) bias cs
      | _, _ => none

theorem length_number? {i w k bias : Nat} {cs rest : List Char} {n : Nat}
    (h : number? i w k bias cs = some (n, rest)) :
  rest.length < cs.length
  := by
  induction cs generalizing i w k with
  | nil => simp [number?] at h
  | cons c cs ih =>
    simp only [number?] at h
    split at h
    next => cases h
    next =>
      split at h
      next =>
        split at h
        next => cases h; simp
        next =>
          split at h
          next => cases h
          next => exact Nat.lt_succ_of_lt (ih h)
      next => cases h

/-- The bias for the next number, from a small `n` after `k / 36` divisions. -/
def settle (n k : Nat) : Nat :=
  if n > 455 then settle (n / 35) (k + 36) else k + 36 * n / (n + 38)
termination_by n

/-- The bias for the next number. -/
def bias (delta count : Nat) (first : Bool) : Nat :=
  let n := if first then delta / 700 else delta / 2
  settle (n + n / count) 0

/-- The text with the characters that the digits add to it. `n` is the code point of the
last one added and `i` the place after it. -/
def addAll? (n i b : Nat) (first : Bool) (text digits : List Char) : Option (List Char) :=
  match digits with
  | [] => some text
  | c :: cs =>
    match h : number? i 1 36 b (c :: cs) with
    | none => none
    | some (j, rest) =>
      have : rest.length < (c :: cs).length := length_number? h
      let count := text.length + 1
      let n := n + j / count
      let place := j % count
      if n.isValidChar then
        addAll? n (place + 1) (bias (j - i) count first) false
          (text.take place ++ Char.ofNat n :: text.drop place) rest
      else none
termination_by digits.length
decreasing_by assumption

/-- The text that is written in letters, digits and dashes. -/
def decode? (cs : List Char) : Option (List Char) :=
  let digits := (cs.reverse.takeWhile (· ≠ '-')).reverse
  let front := cs.take (cs.length - digits.length)
  if front.length ≤ 1 then addAll? 128 0 72 true [] cs
  else addAll? 128 0 72 true front.dropLast digits

end Entitlement.Url.Punycode
