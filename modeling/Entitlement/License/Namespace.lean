import Entitlement.Text.Split

/-!
# Namespaces

A license can be restricted to a namespace, a path of names with dots between them. It then
covers the namespace itself and those nested in it. `Namespace.components` is the list of
the names of a path.
-/

namespace Entitlement.Namespace

/-- What follows the characters `front` in `cs`, if `cs` begins with them. -/
def rest? : (front cs : List Char) → Option (List Char)
  | [], cs => some cs
  | _ :: _, [] => none
  | a :: front, c :: cs => if a = c then rest? front cs else none

theorem rest?_eq_some_iff {front cs rest : List Char} :
  rest? front cs = some rest ↔ cs = front ++ rest
  := by
  induction front generalizing cs with
  | nil => simp [rest?]
  | cons a front ih =>
    cases cs with
    | nil => simp [rest?]
    | cons c cs =>
      simp only [rest?]
      split
      · rename_i h
        subst h
        simp [ih]
      · rename_i h
        simp only [List.cons_append, List.cons.injEq, reduceCtorEq, false_iff, not_and]
        intro hc
        exact absurd hc.symm h

/-- A restriction to the first namespace admits the second. -/
def covers (restriction consumer : String) : Bool :=
  match rest? restriction.toList consumer.toList with
  | some [] => true
  | some (c :: _) => c = '.'
  | none => false

/-- A restriction admits its own namespace and those that continue it behind a dot. -/
theorem covers_iff {restriction consumer : String} :
  covers restriction consumer = true ↔
    consumer = restriction ∨ ∃ rest, consumer = restriction ++ "." ++ rest
  := by
  have hcontinued (rest : String) :
      consumer = restriction ++ "." ++ rest ↔
        consumer.toList = restriction.toList ++ '.' :: rest.toList := by
    rw [← String.toList_inj, String.toList_append, String.toList_append, List.append_assoc]
    rfl
  have hrest (rest : List Char) :
      rest? restriction.toList consumer.toList = some rest ↔
        consumer.toList = restriction.toList ++ rest :=
    rest?_eq_some_iff
  constructor
  · intro h
    unfold covers at h
    split at h
    · rename_i hsame
      left
      apply String.toList_inj.1
      rw [(hrest []).1 hsame, List.append_nil]
    · rename_i c cs hfront
      cases of_decide_eq_true h
      right
      exact ⟨String.ofList cs, (hcontinued _).2 (by rw [String.toList_ofList, (hrest _).1 hfront])⟩
    · cases h
  · rintro (rfl | ⟨rest, hconsumer⟩)
    · rw [covers, (hrest []).2 (List.append_nil _).symm]
    · rw [covers, (hrest _).2 ((hcontinued rest).1 hconsumer)]
      rfl

/-- What is nested in a namespace is covered by each restriction that covers the namespace. -/
theorem covers_trans {restriction outer inner : String} (houter : covers restriction outer = true)
    (hinner : covers outer inner = true) :
  covers restriction inner = true
  := by
  rcases covers_iff.1 hinner with rfl | ⟨name, rfl⟩
  · apply houter
  · apply covers_iff.2
    right
    rcases covers_iff.1 houter with rfl | ⟨middle, rfl⟩
    · exact ⟨name, rfl⟩
    · exact ⟨middle ++ "." ++ name, by simp only [String.append_assoc]⟩

/-- The names between the dots of a path. -/
def components (path : String) : List (List Char) :=
  Text.split '.' path.toList

end Entitlement.Namespace
