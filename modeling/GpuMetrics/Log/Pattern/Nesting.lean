import GpuMetrics.Log.Pattern.Atom

/-!
# How deep a pattern nests

A pattern is made of parts that are made of parts. Its **depth** counts the layers on the longest
way down to a single character: a group, a bracketed class, a repetition, an operator of a class,
and every place where two or more parts stand side by side are a layer each. A pattern that nests
too deep makes no sense (`GpuMetrics.Log.maxPatternDepth`).

The depth is counted while a pattern is read, so what is kept of the open groups and classes
(`GpuMetrics.Log.PatternGroup`, `GpuMetrics.Log.PatternClass`) are depths only.
-/

namespace GpuMetrics.Log

/-- The depth down to which a pattern may nest. -/
def maxPatternDepth : Nat := 250

/-! ### Parts side by side -/

/-- Parts that stand side by side: how many they are, and the depth of the deepest. -/
structure Nesting where
  count : Nat := 0
  deepest : Nat := 0
  deriving DecidableEq, Repr

namespace Nesting

/-- The parts with one more, of the given depth. -/
def add (n : Nesting) (depth : Nat) : Nesting := ⟨n.count + 1, n.deepest.max depth⟩

/-- The depth of the whole; a part that stands alone is the whole. -/
def depth (n : Nesting) : Nat := if n.count ≤ 1 then n.deepest else n.deepest + 1

end Nesting

/-! ### Groups -/

/-- A group that is open, or the pattern as a whole. -/
structure PatternGroup where
  /-- The flags in force. -/
  flags : PatternFlags := {}
  /-- The alternatives before the one being read. -/
  alternatives : Nesting := {}
  /-- The items of the one being read, except for the operand. -/
  items : Nesting := {}
  /-- The depth of the last item, if it may be repeated. -/
  operand : Option Nat := none
  deriving DecidableEq, Repr

namespace PatternGroup

/-- All items of the alternative being read. -/
def sequence (g : PatternGroup) : Nesting :=
  match g.operand with
  | some depth => g.items.add depth
  | none => g.items

/-- All alternatives. -/
def branches (g : PatternGroup) : Nesting := g.alternatives.add g.sequence.depth

/-- The group with one more item, which may be repeated. -/
def push (g : PatternGroup) (depth : Nat) : PatternGroup :=
  { g with items := g.sequence, operand := some depth }

/-- The group with its last item repeated. -/
def repeat? (g : PatternGroup) : Option PatternGroup :=
  g.operand.map fun depth => { g with operand := some (depth + 1) }

/-- The group at the front of its next alternative. -/
def branch (g : PatternGroup) : PatternGroup :=
  { g with alternatives := g.branches, items := {}, operand := none }

/-- The group with the given flags in force from here on. The change is an item by itself, but
none that may be repeated. -/
def changeFlags (g : PatternGroup) (flags : PatternFlags) : PatternGroup :=
  { g with flags, items := g.sequence.add 0, operand := none }

end PatternGroup

/-! ### Classes -/

/-- A bracketed class that is open. -/
structure PatternClass where
  /-- The members since the last operator. -/
  members : Nesting := {}
  /-- The depth of what stands before the last operator. -/
  combined : Option Nat := none
  deriving DecidableEq, Repr

namespace PatternClass

/-- The depth of what the class consists of. -/
def depth (k : PatternClass) : Nat :=
  match k.combined with
  | some depth => depth.max k.members.depth + 1
  | none => k.members.depth

/-- The class with one more member, of the given depth. -/
def add (k : PatternClass) (depth : Nat) : PatternClass :=
  { k with members := k.members.add depth }

/-- The class behind an operator. -/
def combine (k : PatternClass) : PatternClass := { combined := some k.depth }

end PatternClass

end GpuMetrics.Log
