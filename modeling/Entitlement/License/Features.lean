/-!
# Features

A license grants a set of features. Each feature is one bit of a word, and every word is a
set of features: the bits without a name can be granted and asked for as well.
-/

namespace Entitlement

/-- A set of features. -/
structure Features where
  /-- The features as the bits of a word. -/
  bits : UInt64
deriving DecidableEq

namespace Features

def none : Features := ⟨0⟩
def core : Features := ⟨1⟩
def framework : Features := ⟨2⟩
def analysis : Features := ⟨4⟩
def codeFix : Features := ⟨8⟩
def debugger : Features := ⟨16⟩

/-- The features of either set. -/
def union (a b : Features) : Features := ⟨a.bits ||| b.bits⟩

instance : Union Features := ⟨union⟩

/-- All features that have a name. -/
def all : Features := core ∪ framework ∪ analysis ∪ codeFix ∪ debugger

/-- The first set has all features of the second. -/
def contains (a b : Features) : Bool := a.bits &&& b.bits = b.bits

theorem contains_trans {a b c : Features} (hab : a.contains b = true)
    (hbc : b.contains c = true) :
  a.contains c = true
  := by
  have hb : a.bits &&& b.bits = b.bits := of_decide_eq_true hab
  have hc : b.bits &&& c.bits = c.bits := of_decide_eq_true hbc
  apply decide_eq_true
  calc a.bits &&& c.bits = a.bits &&& (b.bits &&& c.bits) := by rw [hc]
    _ = b.bits &&& c.bits := by rw [← UInt64.and_assoc, hb]
    _ = c.bits := hc

/-- There are no features. -/
def isEmpty (a : Features) : Bool := a.bits = 0

example : all.bits = 31 := rfl

end Features

end Entitlement
