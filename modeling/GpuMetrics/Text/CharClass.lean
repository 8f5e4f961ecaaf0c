/-!
# Character classes by their edges

A class of code points that consists of a few hundred runs is written as the ascending list of its
**edges**: the first code point of a run, the first one after it, the first of the next run, and
so on. A code point belongs to the class exactly when an odd number of edges lie at or below it.
-/

namespace GpuMetrics.Text

/-- A class of code points, given by the ascending list of places where membership changes. -/
structure CharClass where
  edges : List Nat
  deriving Repr

/-- A character is in the class when an odd number of edges lie at or below its code point. -/
def CharClass.contains (cls : CharClass) (c : Char) : Bool :=
  cls.edges.countP (· ≤ c.toNat) % 2 == 1

/-- One run holds the code points from its first edge up to, but not including, its second. -/
theorem CharClass.contains_run (a b : Nat) (c : Char) (h : a ≤ b) :
    CharClass.contains ⟨[a, b]⟩ c = true ↔ a ≤ c.toNat ∧ c.toNat < b := by
  by_cases ha : a ≤ c.toNat <;> by_cases hb : b ≤ c.toNat <;>
    simp [CharClass.contains, ha, hb] <;> omega

end GpuMetrics.Text
