import Entitlement.Proofs.Key.Spelling
import Entitlement.Proofs.Store.Saved

/-!
# The keys of a configuration

The keys of a configuration are an ordered set: every entry that is not blank is a key, without
the blank characters around it, and the keys stand in the order in which the entries have them
first. A key that is added and not there yet is put behind those of the list
(`Configuration.keys_of_add?`), and adding it again changes nothing
(`Configuration.keys_ordered`). A blank text is never a key, and can be added any number of
times (`Configuration.add?_blank`).
-/

namespace Entitlement

/-! ### Lists without repetitions -/

section

variable {α : Type} [BEq α] [LawfulBEq α]

theorem eraseDups_concat_of_mem {l : List α} {a : α} (h : a ∈ l) :
  (l ++ [a]).eraseDups = l.eraseDups
  := by
  rw [List.eraseDups_append, List.removeAll, List.filter_cons, List.elem_eq_true_of_mem h]
  simp

theorem eraseDups_concat_of_not_mem {l : List α} {a : α} (h : a ∉ l) :
  (l ++ [a]).eraseDups = l.eraseDups ++ [a]
  := by
  simp [List.eraseDups_append, List.removeAll, List.eraseDups_cons, h]

/-- What is left of a list has the order of the first occurrences. -/
theorem pairwise_eraseDups (l : List α) :
  l.eraseDups.Pairwise fun a b => l.idxOf a < l.idxOf b
  := by
  induction l using List.reverseRecOn with
  | nil => simp
  | append_singleton l a ih =>
    have hold : l.eraseDups.Pairwise fun b c => (l ++ [a]).idxOf b < (l ++ [a]).idxOf c := by
      apply ih.imp_of_mem
      intro b c hb hc hlt
      rw [List.idxOf_append, List.idxOf_append, if_pos (List.mem_eraseDups.1 hb),
        if_pos (List.mem_eraseDups.1 hc)]
      apply hlt
    by_cases ha : a ∈ l
    · rw [eraseDups_concat_of_mem ha]
      apply hold
    · rw [eraseDups_concat_of_not_mem ha, List.pairwise_append]
      use hold, List.pairwise_singleton _ a
      intro b hb c hc
      obtain rfl := List.mem_singleton.1 hc
      have hb := List.mem_eraseDups.1 hb
      rw [List.idxOf_append, List.idxOf_append, if_pos hb, if_neg ha]
      apply Nat.lt_add_left _ (List.idxOf_lt_length_of_mem hb)

theorem nodup_eraseDups (l : List α) :
  l.eraseDups.Nodup
  := by
  apply (pairwise_eraseDups l).imp
  rintro a b hlt rfl
  apply Nat.lt_irrefl _ hlt

/-- One more element in the middle stands behind what is left of the elements in front. -/
theorem eraseDups_insert {front back : List α} {a : α} (h : a ∉ front ++ back) :
  ∃ l r, (front ++ back).eraseDups = l ++ r ∧ (front ++ a :: back).eraseDups = l ++ a :: r
  := by
  rw [List.mem_append, not_or] at h
  have hback : back.removeAll (front ++ [a]) = back.removeAll front := by
    apply List.filter_congr
    intro b hb
    have hne : b ≠ a := by
      rintro rfl
      apply h.2 hb
    simp [hne]
  use front.eraseDups, (back.removeAll front).eraseDups, List.eraseDups_append
  rw [List.append_cons, List.eraseDups_append, eraseDups_concat_of_not_mem h.1, hback,
    List.append_assoc, List.singleton_append]

end

namespace Configuration

/-! ### Entries and keys -/

/-- The entries of a configuration, those of the list in front. -/
def entries (c : Configuration) : List String :=
  c.licenses ++ c.license.toList

/-- The keys that texts stand for: the blank texts stand for none. -/
def keysOfTexts (texts : List String) : List String :=
  (texts.map Text.trim).filter fun k => k ≠ ""

theorem keysOfTexts_append (texts others : List String) :
  keysOfTexts (texts ++ others) = keysOfTexts texts ++ keysOfTexts others
  := by
  rw [keysOfTexts, List.map_append, List.filter_append]
  rfl

theorem mem_keysOfTexts_iff {texts : List String} {k : String} :
  k ∈ keysOfTexts texts ↔ k ≠ "" ∧ ∃ text ∈ texts, Text.trim text = k
  := by
  rw [keysOfTexts, List.mem_filter, List.mem_map, decide_eq_true_eq, and_comm]

theorem keysOfTexts_singleton_of_blank {text : String} (h : Text.trim text = "") :
  keysOfTexts [text] = []
  := by
  simp [keysOfTexts, h]

theorem keysOfTexts_singleton {text : String} (h : Text.trim text ≠ "") :
  keysOfTexts [text] = [Text.trim text]
  := by
  simp [keysOfTexts, h]

theorem keys_eq (c : Configuration) :
  c.keys = (keysOfTexts c.entries).eraseDups
  := rfl

theorem mem_keys_iff {c : Configuration} {k : String} :
  k ∈ c.keys ↔ k ≠ "" ∧ ∃ text ∈ c.entries, Text.trim text = k
  := by
  rw [keys_eq, List.mem_eraseDups, mem_keysOfTexts_iff]

/-! ### Keys that are added -/

/-- A key that has been added stands behind the keys of the list, unless it is blank: then the
keys are as they were. -/
theorem keys_of_add? {c c' : Configuration} {key : String} (h : c.add? key = some c') :
  (Text.trim key = "" ∧ c'.keys = c.keys) ∨
    (Text.trim key ≠ "" ∧
      ∃ l r, c.keys = l ++ r ∧ c'.keys = l ++ Text.trim key :: r)
  := by
  have habsent : Text.trim key ∉ c.keys := by
    intro hmem
    rw [add?] at h
    rw [if_pos (List.contains_iff_mem.2 hmem)] at h
    cases h
  obtain rfl := eq_of_add? h
  have hkeys : ({ c with licenses := c.licenses ++ [Text.trim key] } : Configuration).keys =
      (keysOfTexts c.licenses ++ keysOfTexts [Text.trim key] ++
        keysOfTexts c.license.toList).eraseDups := by
    rw [keys_eq, entries, keysOfTexts_append, keysOfTexts_append]
  rw [keys_eq, entries, keysOfTexts_append, List.mem_eraseDups] at habsent
  rw [hkeys, keys_eq, entries, keysOfTexts_append]
  by_cases hblank : Text.trim key = ""
  · left
    use hblank
    rw [keysOfTexts_singleton_of_blank (by rw [Text.trim_trim, hblank]), List.append_nil]
  · right
    use hblank
    have htrim : Text.trim (Text.trim key) ≠ "" := by rwa [Text.trim_trim]
    rw [keysOfTexts_singleton htrim, Text.trim_trim, List.append_assoc, List.singleton_append]
    apply eraseDups_insert habsent

theorem add?_isSome_iff {c : Configuration} {key : String} :
  (c.add? key).isSome = true ↔ Text.trim key ∉ c.keys
  := by
  rw [add?]
  split
  · rename_i hmem
    simpa using hmem
  · rename_i hmem
    simpa using hmem

/-- The configuration after a key has been added, or was found to be there. -/
def adding (c : Configuration) (key : String) : Configuration :=
  (c.add? key).getD c

theorem adding_cases (c : Configuration) (key : String) :
  (Text.trim key ∈ c.keys ∧ c.adding key = c) ∨
    (Text.trim key ∉ c.keys ∧ c.add? key = some (c.adding key))
  := by
  cases h : c.add? key with
  | none =>
    left
    constructor
    · by_contra habsent
      rw [← add?_isSome_iff, h] at habsent
      cases habsent
    · rw [adding, h]
      rfl
  | some c' =>
    right
    rw [← add?_isSome_iff, adding, h]
    use rfl
    rfl

theorem mem_keys_adding_iff {c : Configuration} {key other : String} :
  other ∈ (c.adding key).keys ↔ other ∈ c.keys ∨ (other = Text.trim key ∧ other ≠ "")
  := by
  rcases adding_cases c key with ⟨hmem, h⟩ | ⟨-, h⟩
  · rw [h]
    constructor
    · apply Or.inl
    · rintro (hother | ⟨rfl, -⟩)
      · apply hother
      · apply hmem
  · rcases keys_of_add? h with ⟨hblank, hkeys⟩ | ⟨hkey, l, r, hold, hnew⟩
    · rw [hkeys, hblank]
      simp
    · rw [hold, hnew]
      simp only [List.mem_append, List.mem_cons]
      constructor
      · rintro (hl | rfl | hr)
        · exact .inl (.inl hl)
        · exact .inr ⟨rfl, hkey⟩
        · exact .inl (.inr hr)
      · rintro ((hl | hr) | ⟨rfl, -⟩)
        · exact .inl hl
        · exact .inr (.inr hr)
        · exact .inr (.inl rfl)

theorem keys_sublist_adding (c : Configuration) (key : String) :
  c.keys.Sublist (c.adding key).keys
  := by
  rcases adding_cases c key with ⟨-, h⟩ | ⟨-, h⟩
  · rw [h]
  · rcases keys_of_add? h with ⟨-, hkeys⟩ | ⟨-, l, r, hold, hnew⟩
    · rw [hkeys]
    · rw [hold, hnew]
      apply List.Sublist.append_left (List.sublist_cons_self _ r)

/-- The keys of a configuration are those of its entries that are not blank, each once and in the
order of the first occurrences. A key can be added exactly if it is not there. Then the keys
that were there still are, in the same order; the new one is there too unless it is blank,
and no other one is; and it cannot be added again. -/
theorem keys_ordered (c : Configuration) :
  c.keys.Nodup ∧
  (∀ k, k ∈ c.keys ↔ k ≠ "" ∧ ∃ text ∈ c.entries, Text.trim text = k) ∧
  (c.keys.Pairwise fun a b =>
    (keysOfTexts c.entries).idxOf a < (keysOfTexts c.entries).idxOf b) ∧
  ∀ key, ((c.add? key).isSome = true ↔ Text.trim key ∉ c.keys) ∧
    c.keys.Sublist (c.adding key).keys ∧
    (∀ other, other ∈ (c.adding key).keys ↔
      other ∈ c.keys ∨ (other = Text.trim key ∧ other ≠ "")) ∧
    (Text.trim key ≠ "" → (c.adding key).add? key = none)
  := by
  use nodup_eraseDups _, fun k => mem_keys_iff, pairwise_eraseDups _
  intro key
  use add?_isSome_iff, keys_sublist_adding c key, fun other => mem_keys_adding_iff
  intro hkey
  by_contra hagain
  apply add?_isSome_iff.1 (Option.isSome_iff_ne_none.2 hagain)
  apply mem_keys_adding_iff.2
  right
  use rfl, hkey

/-- A key with blank characters around it comes between the key of the list and the one that
stands by itself, once. -/
theorem keys_ordered_between :
  Text.trim "\t2-CCC " ≠ "" ∧
  (({ licenses := [" 2-AAA", ""], license := some "2-BBB" } : Configuration).adding
    "\t2-CCC ").keys = ["2-AAA", "2-CCC", "2-BBB"] ∧
  (({ licenses := [" 2-AAA", ""], license := some "2-BBB" } : Configuration).adding
    "\t2-CCC ").add? "\t2-CCC " = none
  := by
  have hkey : Text.trim "\t2-CCC " ≠ "" := by decide +kernel
  obtain ⟨-, -, -, hadd⟩ :=
    keys_ordered { licenses := [" 2-AAA", ""], license := some "2-BBB" }
  obtain ⟨-, -, -, hagain⟩ := hadd "\t2-CCC "
  refine ⟨hkey, ?_, hagain hkey⟩
  decide +kernel

/-- A blank text can be added, is not there then, and can be added again. -/
theorem add?_blank :
  ({} : Configuration).add? " " = some { licenses := [""] } ∧
  Text.trim " " ∉ ({ licenses := [""] } : Configuration).keys ∧
  ({ licenses := [""] } : Configuration).add? " " = some { licenses := ["", ""] }
  := by
  refine ⟨rfl, ?_, rfl⟩
  decide +kernel

end Configuration

end Entitlement
