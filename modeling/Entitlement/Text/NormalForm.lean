import Entitlement.Text.CombiningClass
import Entitlement.Text.Composed

/-!
# The normal form of a text

The same text can be written in many ways: with a composed letter, or with the plain one and
a mark after it, and with the marks on a letter in different orders. `Text.normalForm` is
the one of them that takes all letters apart, puts the marks of each letter in the order of
their classes, and composes again what can be composed from the left to the right.
-/

namespace Entitlement.Text

/-- The characters that a character is composed of in the end, after at most `steps` steps. -/
def takeApart : (steps : Nat) → Char → List Char
  | 0, c => [c]
  | steps + 1, c =>
    match parts? c with
    | none => [c]
    | some (a, b) => takeApart steps a ++ [b]

/-- No character is composed in more than four steps. -/
def maxSteps : Nat := 4

/-- Puts a character before others, behind the marks that have to stand first. -/
def placeMark (c : Char) : List Char → List Char
  | [] => [c]
  | d :: ds =>
    if 0 < combiningClass d && combiningClass d < combiningClass c then d :: placeMark c ds
    else c :: d :: ds

/-- The text with the marks of each letter in order. -/
def orderMarks (cs : List Char) : List Char := cs.foldr placeMark []

/-- Composes a text that begins with `first`, followed by the marks `kept`, the last one in
front, which did not go together with it. A mark is kept apart from `first` by one of the
same class. -/
def composeFrom (first : Char) (kept : List Char) : List Char → List Char
  | [] => first :: kept.reverse
  | c :: cs =>
    let apart := kept.head?.any fun m => combiningClass c ≤ combiningClass m
    match if apart then none else compose? first c with
    | some composed => composeFrom composed kept cs
    | none =>
      if combiningClass c = 0 then first :: (kept.reverse ++ composeFrom c [] cs)
      else composeFrom first (c :: kept) cs

/-- Composes what can be composed. -/
def composeAll : List Char → List Char
  | [] => []
  | c :: cs => if combiningClass c = 0 then composeFrom c [] cs else c :: composeAll cs

/-- The normal form of a text. -/
def normalForm (cs : List Char) : List Char :=
  composeAll (orderMarks (cs.flatMap (takeApart maxSteps)))

end Entitlement.Text
