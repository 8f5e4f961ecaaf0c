import GpuMetrics.Log.Event
import GpuMetrics.Log.Pattern
import GpuMetrics.Text.Position

/-!
# Log filters

A filter is a comma-separated list of **directives**. A directive sets the least level that is
logged, for all events, for those whose target starts with a given name, or for those that have a
given field: `info`, `name=debug`, `name[{field}]=trace`. An event is logged if the most specific
directive that fits it admits its level; without a fitting directive it is not logged.

A directive may also name a span or the value of a field. Events are never inside a span here, so
such a directive admits none; it only keeps the filter from being empty. An empty filter admits
nothing if it was asked for as it is, and errors if it is all that is left of what was asked for.

The marks of a directive are looked for behind the blanks at its front, but what stands between
them is cut out of the whole text at those same positions. So a directive with a blank at its front
has all its parts shifted, and seldom makes sense.
-/

namespace GpuMetrics.Log

open Text (byteCount dropBytes cut)

/-! ### Thresholds -/

/-- The least level that is logged; nothing is without one. -/
abbrev Threshold := Option Level

/-- The rank of a level, the least important first. -/
def Level.rank : Level → Nat
  | .trace => 0
  | .debug => 1
  | .info => 2
  | .warn => 3
  | .error => 4

/-- Whether a threshold admits a level. -/
def admits (threshold : Threshold) (level : Level) : Bool :=
  match threshold with
  | some least => least.rank ≤ level.rank
  | none => false

/-- The thresholds by number. -/
def thresholds : List Threshold :=
  [none, some .error, some .warn, some .info, some .debug, some .trace]

/-- The thresholds by name. -/
def thresholdWords : List (String × Threshold) :=
  [("off", none), ("error", some .error), ("warn", some .warn), ("info", some .info),
   ("debug", some .debug), ("trace", some .trace)]

/-- The threshold that a text names: a word in any case, or a number from zero to five. No text is
the threshold of errors. -/
def threshold? (text : List Char) : Option Threshold :=
  let digits := match text with
    | '+' :: rest => rest
    | _ => text
  if text = [] then some (some .error)
  else if digits ≠ [] ∧ digits.all Char.isDigit then thresholds[Text.natOfDigits digits]?
  else thresholdWords.lookup (String.ofList (text.map Char.toLower))

/-! ### Directives -/

/-- A filter directive. -/
structure Directive where
  threshold : Threshold := some .trace
  /-- What the target of an event has to start with. -/
  target : Option String := none
  /-- The name of a span. -/
  span : Option String := none
  /-- A field that an event or a span has to have. -/
  field : Option String := none
  /-- A pattern for the field of a span. -/
  value : Option String := none
  deriving DecidableEq, Repr

/-- Why a directive was ignored. -/
inductive DirectiveError where
  | malformed
  | badLevel
  | badPattern (cause : PatternError)
  deriving DecidableEq, Repr

/-- The wording of why a directive was ignored. -/
def DirectiveError.message : DirectiveError → String
  | .malformed => "invalid filter directive"
  | .badLevel =>
    "error parsing level filter: expected one of \"off\", \"error\", \"warn\", \"info\", " ++
      "\"debug\", \"trace\", or a number 0-5"
  | .badPattern cause => "invalid field filter: " ++ cause.message

/-- A character with which the target or the level of a directive may start. -/
def isDirectiveStart (c : Char) : Bool :=
  c == '-' || c == ':' || c == '_' || Text.isAlphanumeric c

/-- The directive with the level that is written behind a position of the text. -/
def Directive.withLevel (d : Directive) (text : List Char) (position : Nat) :
    Except DirectiveError Directive :=
  match dropBytes position text with
  | [] => .ok d
  | level =>
    match threshold? level with
    | some threshold => .ok { d with threshold }
    | none => .error .badLevel

/-- The directive with the field that a text names, and with the pattern for its value, if there
is one between the first equals sign and the second. -/
def Directive.withField (d : Directive) (text : List Char) : Except DirectiveError Directive :=
  let field := String.ofList (text.takeWhile (· != '='))
  match text.dropWhile (· != '=') with
  | [] => .ok { d with field := some field }
  | _ :: rest =>
    let pattern := rest.takeWhile (· != '=')
    match patternError? pattern with
    | some cause => .error (.badPattern cause)
    | none => .ok { d with field := some field, value := some (String.ofList pattern) }

/-- The directive with what stands behind its closing bracket: nothing or a level. -/
def Directive.withTail (d : Directive) (text : List Char) (position : Nat) :
    List Char → Except DirectiveError Directive
  | [] => .ok d
  | '=' :: _ => d.withLevel text (position + 1)
  | _ => .error .malformed

/-- The directive with the span and the field between its brackets, and with its level. The text
is that of the whole directive, and what stands behind its opening bracket starts at the given
position. -/
def Directive.withSpan (d : Directive) (text : List Char) (position : Nat) (inner : List Char) :
    Except DirectiveError Directive :=
  let isEnd (c : Char) : Bool := c == ']' || c == '\x7b'
  let stop := position + byteCount (inner.takeWhile (!isEnd ·))
  let span := cut text position stop
  match inner.dropWhile (!isEnd ·) with
  | ']' :: rest => { d with span := some (String.ofList span) }.withTail text (stop + 1) rest
  | '\x7b' :: rest =>
    let fieldStop := stop + 1 + byteCount (rest.takeWhile (· != '\x7d'))
    let field := cut text (stop + 1) fieldStop
    match rest.dropWhile (· != '\x7d') with
    | [] => .error .malformed
    | _ :: rest =>
      if field = [] then .error .malformed
      else
        match { d with
            span := if span = [] then none else some (String.ofList span) }.withField field with
        | .error e => .error e
        | .ok d =>
          match rest with
          | ']' :: rest => d.withTail text (fieldStop + 2) rest
          | _ => .error .malformed
  | _ => .error .malformed

/-- The directive that a text denotes. A lone word is a level if it names one and otherwise a
target; a target without a level admits everything. -/
def Directive.ofText? (text : List Char) : Except DirectiveError Directive :=
  match Text.trimBy Text.isBlank text with
  | [] => .error .malformed
  | '[' :: rest => ({} : Directive).withSpan text 1 rest
  | first :: rest =>
    if !isDirectiveStart first then .error .malformed
    else
      let isEnd (c : Char) : Bool := c == '=' || c == '['
      let stop := byteCount (first :: rest.takeWhile (!isEnd ·))
      let aimed : Directive := { target := some (String.ofList (cut text 0 stop)) }
      match rest.dropWhile (!isEnd ·) with
      | [] =>
        match threshold? text with
        | some threshold => .ok { threshold }
        | none => .ok { target := some (String.ofList text) }
      | '[' :: rest => aimed.withSpan text (stop + 1) rest
      | _ => aimed.withLevel text (stop + 1)

/-! ### Filters -/

/-- A filter, as its directives in the order in which they were given. -/
structure Filter where
  directives : List Directive
  deriving DecidableEq, Repr

namespace Filter

/-- The parts of a text between commas, without empty ones. -/
def parts (text : String) : List (List Char) :=
  (text.toList.splitOn ',').filter (!·.isEmpty)

/-- The filter that a text denotes, if all of its directives make sense. -/
def ofText? (text : String) : Option Filter :=
  (((parts text).mapM Directive.ofText?).toOption).map Filter.mk

/-- The filter of those directives of a text that make sense; without any, errors are admitted. -/
def ofTextLossy (text : String) : Filter :=
  match (parts text).filterMap fun part => (Directive.ofText? part).toOption with
  | [] => ⟨[{ threshold := some .error }]⟩
  | directives => ⟨directives⟩

/-- The reports on those directives of a text that make no sense. -/
def ignored (text : String) : List String :=
  (parts text).filterMap fun part =>
    match Directive.ofText? part with
    | .ok _ => none
    | .error e => some s!"ignoring \x60{String.ofList part}\x60: {e.message}"

end Filter

/-- Whether a directive is about an event. -/
def Directive.fits (d : Directive) (e : Event) : Bool :=
  d.span.isNone && d.value.isNone && (d.target.all fun t => t.isPrefixOf e.component.target) &&
    d.field.all e.names.contains

/-- How specific a directive is by its target: its length, where having one counts. -/
def Directive.targetRank (d : Directive) : Nat :=
  (d.target.map fun t => t.utf8ByteSize + 1).getD 0

/-- Whether a directive is less specific than another that fits the same events. Targets count
first, the longer ones for more; then fields, the later in the alphabet for more. -/
def Directive.isWeaker (d e : Directive) : Bool :=
  d.targetRank < e.targetRank ||
    d.targetRank == e.targetRank &&
      match d.field, e.field with
      | none, some _ => true
      | some a, some b => a < b
      | _, none => false

/-- Of two directives the more specific one; of equally specific ones the later. -/
def Directive.preferred (earlier later : Directive) : Directive :=
  if later.isWeaker earlier then earlier else later

/-- Whether an event is logged: the most specific directive that fits it decides. -/
def Filter.allows (f : Filter) (e : Event) : Bool :=
  match f.directives.filter (·.fits e) with
  | [] => false
  | d :: rest => admits (rest.foldl Directive.preferred d).threshold e.level

end GpuMetrics.Log
