/-!
# Blank characters

The blank characters are those with the Unicode property `White_Space`. `Text.trim` takes
them off both ends of a text, and a text is blank when nothing is left of it.
-/

namespace Entitlement.Text

/-- The character has the property `White_Space`. -/
def isBlank (c : Char) : Bool :=
  let n := c.toNat
  (0x09 ≤ n && n ≤ 0x0D) || n = 0x20 || n = 0x85 || n = 0xA0 || n = 0x1680
    || (0x2000 ≤ n && n ≤ 0x200A) || n = 0x2028 || n = 0x2029 || n = 0x202F || n = 0x205F
    || n = 0x3000

/-- The characters without the blank ones at the end. -/
def trimEnd (cs : List Char) : List Char :=
  (cs.reverse.dropWhile isBlank).reverse

/-- The characters without the blank ones at either end. -/
def trimChars (cs : List Char) : List Char :=
  trimEnd (cs.dropWhile isBlank)

theorem dropWhile_of_not_isBlank {cs : List Char} (h : ∀ c ∈ cs, isBlank c = false) :
  cs.dropWhile isBlank = cs
  := by
  cases cs with
  | nil => rfl
  | cons c cs => rw [List.dropWhile_cons, h c List.mem_cons_self, if_neg Bool.false_ne_true]

theorem trimChars_of_not_isBlank {cs : List Char} (h : ∀ c ∈ cs, isBlank c = false) :
  trimChars cs = cs
  := by
  rw [trimChars, trimEnd, dropWhile_of_not_isBlank h, dropWhile_of_not_isBlank,
    List.reverse_reverse]
  intro c hc
  apply h c (List.mem_reverse.1 hc)

/-- The text without the blank characters at either end. -/
def trim (s : String) : String :=
  String.ofList (trimChars s.toList)

end Entitlement.Text
