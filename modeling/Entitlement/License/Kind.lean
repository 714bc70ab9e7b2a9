import Entitlement.License.Features

/-!
# Kinds of licenses

The kind of a license is written in its key as a code. It names the license to people and
decides which features it grants when its key does not list them.
-/

namespace Entitlement

/-- The kinds of licenses. -/
inductive LicenseKind where
  | personal
  | professional
  | enterprise
  | openSource
  | community
  | evaluation
  | unattended
  /-- A kind that is not known here. -/
  | unknown
deriving DecidableEq

namespace LicenseKind

/-- The kind that a code in a key stands for. -/
def ofCode? (code : UInt8) : Option LicenseKind :=
  if code = 1 then some personal
  else if code = 2 then some professional
  else if code = 3 then some enterprise
  else if code = 4 then some openSource
  else if code = 5 then some community
  else if code = 6 then some evaluation
  else if code = 7 then some unattended
  else none

/-- The code of a kind. -/
def code : LicenseKind → UInt8
  | personal => 1
  | professional => 2
  | enterprise => 3
  | openSource => 4
  | community => 5
  | evaluation => 6
  | unattended => 7
  | unknown => 0

theorem ofCode?_code {k : LicenseKind} (h : k ≠ unknown) :
  ofCode? k.code = some k
  := by
  cases k <;> first | rfl | exact absurd rfl h

theorem code_of_ofCode? {code : UInt8} {k : LicenseKind} (h : ofCode? code = some k) :
  k.code = code ∧ k ≠ unknown
  := by
  simp only [ofCode?] at h
  repeat' split at h
  all_goals first
    | (cases h; subst_vars; exact ⟨rfl, by decide⟩)
    | cases h

/-- The features that a license grants when its key lists none. -/
def defaultFeatures : LicenseKind → Features
  | community => .core
  | personal | openSource => .core ∪ .framework
  | professional => .core ∪ .framework ∪ .analysis ∪ .codeFix
  | enterprise | evaluation | unattended => .all
  | unknown => .none

/-- The name of a kind for people. -/
def displayName : LicenseKind → String
  | personal => "Personal"
  | professional => "Professional"
  | enterprise => "Enterprise"
  | openSource => "Open Source"
  | community => "Community"
  | evaluation => "Evaluation"
  | unattended => "Unattended"
  | unknown => "Unknown"

/-- The name of a kind in structured data. -/
def identifier : LicenseKind → String
  | personal => "personal"
  | professional => "professional"
  | enterprise => "enterprise"
  | openSource => "opensource"
  | community => "community"
  | evaluation => "evaluation"
  | unattended => "unattended"
  | unknown => "unknown"

end LicenseKind

end Entitlement
