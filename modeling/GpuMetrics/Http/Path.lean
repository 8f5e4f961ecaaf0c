/-!
# Path patterns

The metrics path may hold wildcards. A **parameter** (`:name`) stands for the non-empty rest of a
segment, a **catch-all** (`*name`) for the non-empty rest of the whole path; every other character
stands for itself. A pattern is refused if a wildcard has no name, if a second one starts in the
same segment, or if a catch-all is not all of the last segment.
-/

namespace GpuMetrics.Http

/-- A part of a path pattern. -/
inductive PatternPart where
  | literal (c : Char)
  /-- A non-empty run of characters up to the next slash. -/
  | parameter
  /-- A non-empty run of characters up to the end. -/
  | catchAll
  deriving DecidableEq, Repr

/-- A path pattern. -/
abbrev Pattern := List PatternPart

/-- Whether a character starts a wildcard. -/
def isWildcard (c : Char) : Bool := c == ':' || c == '*'

/-- The parts of a pattern whose last character read was `last`; inside the name of a wildcard,
`inName` tells whether a character of the name was read. -/
def readParts? (last : Char) (inName : Option Bool) : List Char → Option Pattern
  | [] => if inName = some false then none else some []
  | c :: rest =>
    match inName with
    | some named =>
      if c = '/' then
        if named then (readParts? c none rest).map (.literal c :: ·) else none
      else if isWildcard c then none
      else readParts? c (some true) rest
    | none =>
      if c = ':' then (readParts? c (some false) rest).map (.parameter :: ·)
      else if c = '*' then
        if last = '/' ∧ rest ≠ [] ∧ rest.all (fun d => d != '/' && !isWildcard d) then
          some [.catchAll]
        else none
      else (readParts? c none rest).map (.literal c :: ·)

/-- The most parameters that a pattern may have. -/
def maxParameters : Nat := 25

/-- The pattern that a path describes. Paths start with a slash. -/
def Pattern.ofText? : List Char → Option Pattern
  | '/' :: rest =>
    match readParts? '/' none rest with
    | some parts =>
      if maxParameters < parts.count .parameter then none else some (.literal '/' :: parts)
    | none => none
  | _ => none

/-- Whether a path matches a pattern. -/
def Pattern.accepts : Pattern → List Char → Bool
  | [], path => path.isEmpty
  | .literal c :: parts, path =>
    match path with
    | d :: rest => c == d && Pattern.accepts parts rest
    | [] => false
  | .parameter :: parts, path =>
    !(path.takeWhile (· != '/')).isEmpty && Pattern.accepts parts (path.dropWhile (· != '/'))
  | .catchAll :: _, path => !path.isEmpty

/-- Whether a pattern has no wildcards. -/
def Pattern.isStatic (p : Pattern) : Bool :=
  p.all fun
    | .literal _ => true
    | _ => false

end GpuMetrics.Http
