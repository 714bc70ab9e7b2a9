import Entitlement.Json.Reader
import Mathlib.Data.Bool.AllAny
import Mathlib.Tactic.Use

/-!
# Strings that are read back

What has been written for a string is read as the string again (`Json.readString_encode`),
character by character.
-/

namespace Entitlement.Json

namespace Quoted

/-- The characters that are written with a letter of their own, and these letters. -/
def letters : List (Char × Char) :=
  [('"', '"'), ('\\', '\\'), ('\x08', 'b'), ('\t', 't'), ('\n', 'n'), ('\x0c', 'f'), ('\r', 'r')]

/-- The characters that are written with a letter of their own. -/
def lettered : List Char := letters.map (·.1)

theorem spell_lettered {c : Char} (h : c ∈ lettered) :
  ∃ l, spell c = ['\\', l] ∧ l ≠ 'u' ∧ letter? l = some c
  := by
  have hletters : ∀ p ∈ letters,
      spell p.1 = ['\\', p.2] ∧ p.2 ≠ 'u' ∧ letter? p.2 = some p.1 :=
    List.all_iff_forall_prop.1 (by decide)
  obtain ⟨⟨_, l⟩, hl, rfl⟩ := List.mem_map.1 h
  use l
  apply hletters _ hl

theorem spell_of_not_lettered {c : Char} (h : c ∉ lettered) :
  spell c =
    if c < ' ' then
      ['\\', 'u', '0', '0', Bytes.hexDigit (c.toNat / 16), Bytes.hexDigit (c.toNat % 16)]
    else [c]
  := by
  simp only [lettered, letters, List.map_cons, List.map_nil, List.mem_cons, List.not_mem_nil,
    or_false, not_or] at h
  obtain ⟨h₁, h₂, h₃, h₄, h₅, h₆, h₇⟩ := h
  rw [spell, if_neg h₁, if_neg h₂, if_neg h₃, if_neg h₄, if_neg h₅, if_neg h₆, if_neg h₇]

/-- The four digits of a control are read as its number. -/
theorem unit?_control {n : Nat} (h : n < 32) :
  unit? '0' '0' (Bytes.hexDigit (n / 16)) (Bytes.hexDigit (n % 16)) = some n
  := by
  revert n
  decide

theorem decode_spell (c : Char) (cs : List Char) :
  decode (spell c ++ cs) = (decode cs).map fun (s, rest) => (c :: s, rest)
  := by
  by_cases h : c ∈ lettered
  · obtain ⟨l, hspell, hu, hl⟩ := spell_lettered h
    rw [hspell]
    change decode ('\\' :: l :: cs) = _
    rw [decode]
    · rw [hl]
    · intro _ _ _ _ _ h _
      apply hu h
  · rw [spell_of_not_lettered h]
    split
    · rename_i hcontrol
      have hn : c.toNat < 32 := hcontrol
      have hhigh : isHigh c.toNat = false := by
        simp only [isHigh, Bool.and_eq_false_iff, decide_eq_false_iff_not]
        omega
      have hlow : isLow c.toNat = false := by
        simp only [isLow, Bool.and_eq_false_iff, decide_eq_false_iff_not]
        omega
      simp only [List.cons_append, List.nil_append]
      rw [decode, unit?_control hn]
      simp only [hhigh, hlow, Char.ofNat_toNat]
      rfl
    · rename_i hcontrol
      have hquote : c ≠ '"' := by
        rintro rfl
        apply h
        decide
      have hslash : c ≠ '\\' := by
        rintro rfl
        apply h
        decide
      have hplain : ¬(c < ' ' ∨ c = '\\') := by
        rintro (h | h)
        · apply hcontrol h
        · apply hslash h
      change decode (c :: cs) = _
      rw [decode]
      · rw [if_neg hplain]
      · apply hquote
      · rintro _ _ _ _ _ rfl _
        apply hslash rfl
      · rintro _ _ rfl _
        apply hslash rfl

theorem decode_flatMap_spell (cs rest : List Char) :
  decode (cs.flatMap spell ++ '"' :: rest) = some (cs, rest)
  := by
  induction cs with
  | nil => rw [List.flatMap_nil, List.nil_append, decode]
  | cons c cs ih =>
    rw [List.flatMap_cons, List.append_assoc, decode_spell, ih]
    rfl

end Quoted

/-- What has been written for a string is read as the string behind its opening quote. -/
theorem readString_encode (s : String) (rest : List Char) :
  ∃ cs, Quoted.encode s ++ rest = '"' :: cs ∧ readString cs = some (s, rest)
  := by
  use s.toList.flatMap Quoted.spell ++ '"' :: rest
  constructor
  · rw [Quoted.encode, List.cons_append, List.append_assoc]
    rfl
  · rw [readString, Quoted.decode_flatMap_spell]
    change some (String.ofList s.toList, rest) = _
    rw [String.ofList_toList]

end Entitlement.Json
