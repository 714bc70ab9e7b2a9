import Entitlement.License.Namespace
import Mathlib.Tactic.Use

/-!
# Nested namespaces

A restriction covers a namespace if the names of the restriction are the first names of the
namespace (`Namespace.covers_iff_isPrefix`). So namespaces are ordered by nesting, and the
restrictions that cover a namespace lie one in another (`Namespace.covers_nested`).
-/

namespace Entitlement

namespace Namespace

/-! ### Paths and their names -/

/-- A path is its names with dots between them. -/
theorem intercalate_components (path : String) :
  ['.'].intercalate (components path) = path.toList
  := by
  rw [components, Text.split_eq_splitOn, List.intercalate_splitOn]

theorem components_ne_nil (path : String) :
  components path ≠ []
  := Text.split_ne_nil '.' path.toList

theorem components_inj {path other : String} :
  components path = components other ↔ path = other
  := by
  constructor
  · intro h
    rw [← String.toList_inj, ← intercalate_components, h, intercalate_components]
  · rintro rfl
    rfl

/-- The names of a path that continues another one behind a dot. -/
theorem components_append (path rest : String) :
  components (path ++ "." ++ rest) = components path ++ components rest
  := by
  have hlist : (path ++ "." ++ rest).toList = path.toList ++ '.' :: rest.toList := by
    rw [String.toList_append, String.toList_append, List.append_assoc]
    rfl
  rw [components, hlist, Text.split_eq_splitOn, List.splitOn_append_cons_self,
    ← Text.split_eq_splitOn, ← Text.split_eq_splitOn]
  rfl

theorem intercalate_append (separator : List Char) {names others : List (List Char)}
    (hnames : names ≠ []) (hothers : others ≠ []) :
  separator.intercalate (names ++ others) =
    separator.intercalate names ++ separator ++ separator.intercalate others
  := by
  induction names with
  | nil => exact absurd rfl hnames
  | cons name names ih =>
    cases names with
    | nil =>
      rw [List.singleton_append, List.intercalate_cons_of_ne_nil hothers,
        List.intercalate_singleton]
    | cons next names =>
      rw [List.cons_append, List.intercalate_cons_of_ne_nil (by simp), ih (by simp),
        List.intercalate_cons_cons]
      simp only [List.append_assoc]

/-! ### Nesting -/

/-- A restriction covers the namespaces that its names are the first names of. -/
theorem covers_iff_isPrefix (restriction consumer : String) :
  covers restriction consumer = true ↔ components restriction <+: components consumer
  := by
  rw [covers_iff]
  constructor
  · rintro (rfl | ⟨rest, rfl⟩)
    · exact List.prefix_rfl
    · rw [components_append]
      apply List.prefix_append
  · rintro ⟨names, hnames⟩
    by_cases h : names = []
    · left
      rw [h, List.append_nil, components_inj] at hnames
      apply hnames.symm
    · right
      use String.ofList (['.'].intercalate names)
      rw [← String.toList_inj, ← intercalate_components consumer, ← hnames,
        intercalate_append ['.'] (components_ne_nil restriction) h, intercalate_components,
        String.toList_append, String.toList_append, String.toList_ofList, String.toList_ofList]

theorem covers_self (path : String) :
  covers path path = true
  := (covers_iff_isPrefix path path).2 List.prefix_rfl

theorem covers_antisymm {path other : String} (h : covers path other = true)
    (h' : covers other path = true) :
  path = other
  := by
  rw [covers_iff_isPrefix] at h h'
  apply components_inj.1
  apply h.eq_of_length_le h'.length_le

/-- Of two restrictions that cover the same namespace, one covers the other. -/
theorem covers_total {restriction other consumer : String}
    (h : covers restriction consumer = true) (h' : covers other consumer = true) :
  covers restriction other = true ∨ covers other restriction = true
  := by
  rw [covers_iff_isPrefix] at h h' ⊢
  rw [covers_iff_isPrefix]
  apply List.prefix_or_prefix_of_prefix h h'

/-- A restriction covers a namespace exactly if its names are the first names of the namespace,
empty ones counted. So every namespace covers itself, what covers a namespace covers those that
it covers, no two cover each other, and those that cover the same one lie one in another. -/
theorem covers_nested (restriction consumer : String) :
  (covers restriction consumer = true ↔ components restriction <+: components consumer) ∧
  covers restriction restriction = true ∧
  (∀ inner, covers restriction consumer = true → covers consumer inner = true →
    covers restriction inner = true) ∧
  (covers restriction consumer = true → covers consumer restriction = true →
    restriction = consumer) ∧
  ∀ other, covers restriction consumer = true → covers other consumer = true →
    covers restriction other = true ∨ covers other restriction = true
  := by
  use covers_iff_isPrefix restriction consumer, covers_self restriction
  constructor
  · intro inner houter hinner
    apply covers_trans houter hinner
  · constructor
    · intro h h'
      apply covers_antisymm h h'
    · intro other h h'
      apply covers_total h h'

/-- Names can be empty, and a name does not go on behind a restriction. -/
theorem covers_nested_acme :
  covers "Acme" "Acme." = true ∧ covers "Acme." "Acme..Tools" = true ∧
  covers "Acme" "Acme..Tools" = true ∧
  (covers "Acme." "Acme" = true ∨ covers "Acme" "Acme." = true) ∧
  ¬ components "Acme" <+: components "AcmeCorp"
  := by
  have houter : covers "Acme" "Acme." = true := by decide +kernel
  have hinner : covers "Acme." "Acme..Tools" = true := by decide +kernel
  obtain ⟨-, -, htrans, -⟩ := covers_nested "Acme" "Acme."
  obtain ⟨-, -, -, -, htotal⟩ := covers_nested "Acme." "Acme..Tools"
  have hboth := htrans "Acme..Tools" houter hinner
  refine ⟨houter, hinner, hboth, htotal "Acme" hinner hboth, ?_⟩
  rw [← (covers_nested "Acme" "AcmeCorp").1]
  decide +kernel

end Namespace

end Entitlement
