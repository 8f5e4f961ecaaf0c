import GpuMetrics.Log.Pattern.Nesting
import GpuMetrics.Text.Alphanumeric
import GpuMetrics.Text.Blank
import GpuMetrics.Text.Digits

/-!
# Reading a regular expression

A regular expression is read in a single sweep over its characters, one step each
(`GpuMetrics.Log.PatternReader.step`). A step sees the characters that follow as well, since what
a bracket, a dash or an operator of a class means depends on them. The sweep remembers what it is
in the middle of (`GpuMetrics.Log.PatternMode`), and of the groups and classes that are open, how
deep they nest.

A regular expression makes sense if no step fails, and the sweep ends outside of every group,
class and escape without having been too deep (`GpuMetrics.Log.PatternReader.isComplete`).
-/

namespace GpuMetrics.Log

/-! ### The state -/

/-- Where an atom is read. -/
inductive PatternPlace where
  | outside
  /-- In a class, where a range may begin. -/
  | member
  /-- In a class, at the end of a range that begins with an atom. -/
  | rangeEnd (first : PatternAtom)
  deriving DecidableEq, Repr

/-- What the sweep is in the middle of. -/
inductive PatternMode where
  /-- Nothing, outside of classes. -/
  | outside
  /-- A repetition, before the question mark that makes it a lazy one. -/
  | lazyMark
  /-- An escape, after its backslash. -/
  | escape (place : PatternPlace)
  /-- A hexadecimal escape, with so many digits to come and the value of those read. -/
  | hex (place : PatternPlace) (left value : Nat) (byte : Bool)
  /-- A group, after its parenthesis. -/
  | groupStart
  /-- A group, after its question mark. -/
  | groupKind
  /-- A named group, before the bracket that opens its name. -/
  | groupNameStart
  /-- The name of a group, as far as it is read. -/
  | groupName (name : List Char)
  /-- The flags of a group, as far as they are read. -/
  | groupFlags (letters : List Char)
  /-- The front of a class: whether it is negated, and whether it has dashes. -/
  | classStart (negated dashed : Bool)
  /-- A class, between its members. -/
  | classBody
  /-- A class, in the middle of an operator of two characters. -/
  | operatorEnd
  /-- A class, inside a named class. -/
  | namedClass
  /-- A class, after a member with which a range may begin. -/
  | afterMember (member : PatternAtom)
  /-- A class, after the dash of a range that begins with a member. -/
  | afterDash (member : PatternAtom)
  deriving DecidableEq, Repr

/-- Whether verbose patterns may have blanks in a mode. -/
def PatternMode.allowsBlanks : PatternMode → Bool
  | .outside | .hex .. | .groupStart | .classStart .. | .classBody | .afterMember _
  | .afterDash _ => true
  | _ => false

/-- The state of the sweep. -/
structure PatternReader where
  /-- The innermost open group. -/
  group : PatternGroup := {}
  /-- The groups around it, innermost first. -/
  outer : List PatternGroup := []
  /-- The names of the groups so far. -/
  names : List (List Char) := []
  /-- The open classes, innermost first. -/
  classes : List PatternClass := []
  /-- Whether an edge of a word of whole characters was met. -/
  wideEdge : Bool := false
  /-- Whether the sweep is in a comment. -/
  comment : Bool := false
  mode : PatternMode := .outside
  deriving DecidableEq, Repr

namespace PatternReader

/-- The flags in force. -/
def flags (r : PatternReader) : PatternFlags := r.group.flags

/-! ### Atoms and classes -/

/-- The state after a member of the innermost class, of the given depth. -/
def addMember (r : PatternReader) (depth : Nat) : PatternReader :=
  { r with
    classes := match r.classes with
      | k :: around => k.add depth :: around
      | [] => [] }

/-- The state after an atom. A range may not run backwards. -/
def put (r : PatternReader) (place : PatternPlace) (a : PatternAtom) : Option PatternReader :=
  match place with
  | .outside =>
    if r.flags.admits a then
      some { r with
        mode := .outside, group := r.group.push 0
        wideEdge := r.wideEdge || a == .wordEdge && r.flags.wide }
    else none
  | .member =>
    if r.flags.admitsMember a then some { r.addMember 0 with mode := .afterMember a } else none
  | .rangeEnd first =>
    match first, a with
    | .char low _, .char high _ =>
      if r.flags.admitsMember a && low ≤ high then some { r with mode := .classBody } else none
    | _, _ => none

/-- The state at the front of a class. -/
def openClass (r : PatternReader) : PatternReader :=
  { r with classes := {} :: r.classes, mode := .classStart false false }

/-- The state after the end of the innermost class. -/
def closeClass (r : PatternReader) : Option PatternReader :=
  match r.classes with
  | k :: around :: rest =>
    some { r with classes := around.add (k.depth + 1) :: rest, mode := .classBody }
  | [k] => some { r with classes := [], group := r.group.push (k.depth + 1), mode := .outside }
  | [] => none

/-- The state in the middle of an operator of the innermost class. -/
def combineClass (r : PatternReader) : PatternReader :=
  { r with
    classes := match r.classes with
      | k :: around => k.combine :: around
      | [] => []
    mode := .operatorEnd }

/-- The state after a character between two members of a class. A bracket opens a class, which may
be a named one. Two equal characters, of those that can be one, are an operator. -/
def inClass (r : PatternReader) (c : Char) (rest : List Char) : Option PatternReader :=
  if c = '[' then
    match namedClass? rest with
    | some negated =>
      if r.flags.admitsNamed negated then some { r.addMember 0 with mode := .namedClass } else none
    | none => some r.openClass
  else if c = ']' then r.closeClass
  else if ['&', '-', '~'].contains c ∧ rest.head? = some c then some r.combineClass
  else if c = '\\' then some { r with mode := .escape .member }
  else r.put .member (.char c.toNat false)

/-- The character that tells whether a dash in front of a text makes a range. In a verbose pattern
it is the first that is no blank, where one number sign is passed over but no comment is. -/
def dashSuccessor? (flags : PatternFlags) (text : List Char) : Option Char :=
  if flags.verbose then
    match text.dropWhile Text.isBlank with
    | '#' :: rest => (rest.dropWhile Text.isBlank).head?
    | rest => rest.head?
  else text.head?

/-- The state after a character behind a member of a class. A dash makes a range, unless the class
ends with it or a second dash follows. -/
def behindMember (r : PatternReader) (member : PatternAtom) (c : Char) (rest : List Char) :
    Option PatternReader :=
  let next := dashSuccessor? r.flags rest
  if c = '-' ∧ next ≠ some ']' ∧ next ≠ some '-' then some { r with mode := .afterDash member }
  else r.inClass c rest

/-- The state after a character behind the dash of a range. -/
def behindDash (r : PatternReader) (member : PatternAtom) (c : Char) : Option PatternReader :=
  if c = '\\' then some { r with mode := .escape (.rangeEnd member) }
  else r.put (.rangeEnd member) (.char c.toNat false)

/-- The state after a character at the front of a class. A class has a member at least, so a
bracket that would close it at once is its first member. -/
def inClassFront (r : PatternReader) (negated dashed : Bool) (c : Char) (rest : List Char) :
    Option PatternReader :=
  if c = '^' ∧ !negated ∧ !dashed then
    if r.flags.wide then some { r with mode := .classStart true false } else none
  else if c = '-' then
    (r.put .member (.char c.toNat false)).map ({ · with mode := .classStart negated true })
  else if c = ']' ∧ !dashed then
    (r.put .member (.char c.toNat false)).map ({ · with mode := .classBody })
  else r.inClass c rest

/-! ### Groups -/

/-- The state at the front of a group with the given flags. -/
def openGroup (r : PatternReader) (flags : PatternFlags) : PatternReader :=
  { r with group := { flags }, outer := r.group :: r.outer, mode := .outside }

/-- The state after the end of the innermost group. -/
def closeGroup (r : PatternReader) : Option PatternReader :=
  match r.outer with
  | around :: outer =>
    some { r with group := around.push (r.group.branches.depth + 1), outer, mode := .outside }
  | [] => none

/-- The state after a character of a group's name. -/
def inGroupName (r : PatternReader) (name : List Char) (c : Char) : Option PatternReader :=
  if c = '>' then
    if name = [] ∨ r.names.contains name then none
    else some { r.openGroup r.flags with names := name :: r.names }
  else if c = '_' ∨ Text.isAlphabetic c ∨
      name ≠ [] ∧ (['.', '[', ']'].contains c ∨ Text.isAlphanumeric c) then
    some { r with mode := .groupName (name ++ [c]) }
  else none

/-- The state after a character among the flags of a group. Flags may hold for a group, or from
where they stand to the end of the group around them. -/
def inGroupFlags (r : PatternReader) (letters : List Char) (c : Char) : Option PatternReader :=
  if c = ':' ∨ c = ')' then
    if letters.getLast? = some '-' then none
    else if c = ':' then some (r.openGroup (r.flags.change letters))
    else if letters = [] then none
    else some { r with group := r.group.changeFlags (r.flags.change letters), mode := .outside }
  else if (c = '-' ∨ flagLetters.contains c) ∧ !letters.contains c then
    some { r with mode := .groupFlags (letters ++ [c]) }
  else none

/-! ### The sweep -/

/-- The state after a character outside of classes. Counted repetitions need a brace that the
filter takes for its own, so none is ever complete. -/
def outsideClass (r : PatternReader) (c : Char) (rest : List Char) : Option PatternReader :=
  if c = '\\' then some { r with mode := .escape .outside }
  else if c = '[' then some r.openClass
  else if c = '(' then some { r with mode := .groupStart }
  else if c = ')' then r.closeGroup
  else if c = '|' then some { r with group := r.group.branch }
  else if ['?', '*', '+'].contains c then
    r.group.repeat?.map fun group =>
      { r with group, mode := if rest.head? = some '?' then .lazyMark else .outside }
  else if c = '\x7b' then none
  else if c = '.' then if r.flags.wide then some { r with group := r.group.push 0 } else none
  else if c = '^' ∨ c = '$' then some { r with group := r.group.push 0 }
  else r.put .outside (.char c.toNat false)

/-- The state after a character of an escape. -/
def inEscape (r : PatternReader) (place : PatternPlace) (c : Char) : Option PatternReader :=
  match hexWidths.lookup c with
  | some width => some { r with mode := .hex place width 0 (c == 'x') }
  | none => (PatternAtom.ofEscape? c).bind (r.put place)

/-- The state after a character of a hexadecimal escape. -/
def inHex (r : PatternReader) (place : PatternPlace) (left value : Nat) (byte : Bool) (c : Char) :
    Option PatternReader :=
  let value := value * 16 + Text.hexValue c
  if !Text.isHexDigit c then none
  else if 1 < left then some { r with mode := .hex place (left - 1) value byte }
  else if value.isValidChar then r.put place (.char value byte)
  else none

/-- The state after a character, given the characters that follow, or nothing if the pattern makes
no sense. -/
def step (r : PatternReader) (c : Char) (rest : List Char) : Option PatternReader :=
  let skips := r.flags.verbose && r.mode.allowsBlanks
  if r.comment then some { r with comment := c != '\n' }
  else if skips && Text.isBlank c then some r
  else if skips && c == '#' then some { r with comment := true }
  else match r.mode with
    | .outside => r.outsideClass c rest
    | .lazyMark => some { r with mode := .outside }
    | .escape place => r.inEscape place c
    | .hex place left value byte => r.inHex place left value byte c
    | .groupStart =>
      if c = '?' then some { r with mode := .groupKind }
      else (r.openGroup r.flags).outsideClass c rest
    | .groupKind =>
      if c = '<' then some { r with mode := .groupName [] }
      else if c = 'P' then some { r with mode := .groupNameStart }
      else r.inGroupFlags [] c
    | .groupNameStart => if c = '<' then some { r with mode := .groupName [] } else none
    | .groupName name => r.inGroupName name c
    | .groupFlags letters => r.inGroupFlags letters c
    | .classStart negated dashed => r.inClassFront negated dashed c rest
    | .classBody => r.inClass c rest
    | .operatorEnd => some { r with mode := .classBody }
    | .namedClass => some (if c = ']' then { r with mode := .classBody } else r)
    | .afterMember member => r.behindMember member c rest
    | .afterDash member => r.behindDash member c

/-- The state after a text. -/
def run (r : PatternReader) : List Char → Option PatternReader
  | [] => some r
  | c :: rest => (r.step c rest).bind (run · rest)

/-- Whether a pattern may end in a state. -/
def isComplete (r : PatternReader) : Bool :=
  r.mode == .outside && r.outer.isEmpty && r.group.branches.depth ≤ maxPatternDepth

@[simp]
theorem run_nil (r : PatternReader) : r.run [] = some r := rfl

@[simp]
theorem run_cons (r : PatternReader) (c : Char) (rest : List Char) :
    r.run (c :: rest) = (r.step c rest).bind (·.run rest) := rfl

end PatternReader

end GpuMetrics.Log
