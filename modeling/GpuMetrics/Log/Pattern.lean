import GpuMetrics.Binary64.Decimal
import GpuMetrics.Log.Pattern.Reader

/-!
# Value patterns

A log filter may ask that the value of a field match a **pattern**: a number, a truth value or a
regular expression. Only spans are ever held against a pattern, and there are none here, so all
that can be told of a pattern is whether it makes sense (`GpuMetrics.Log.patternError?`).
-/

namespace GpuMetrics.Log

/-- Why a pattern makes no sense. -/
inductive PatternError where
  | malformed
  /-- It asks for the edges of words of whole characters. -/
  | wideEdge
  deriving DecidableEq, Repr

/-- The wording of why a pattern makes no sense. -/
def PatternError.message : PatternError → String
  | .malformed => "error building NFA"
  | .wideEdge =>
    "unsupported regex feature for DFAs: cannot build DFAs for regexes with Unicode word " ++
      "boundaries; switch to ASCII word boundaries, or heuristically enable Unicode word " ++
      "boundaries or use a different regex engine"

/-- Why a pattern makes no sense, if it does not. Numbers may have a sign that a regular expression
could not start with. -/
def patternError? (pattern : List Char) : Option PatternError :=
  if (Binary64.ofText? pattern).isSome then none
  else match PatternReader.run {} pattern with
    | some r =>
      if !r.isComplete then some .malformed else if r.wideEdge then some .wideEdge else none
    | none => some .malformed

end GpuMetrics.Log
