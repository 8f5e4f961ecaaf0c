/-!
# What the characters of a pattern denote

A character of a pattern, plain or escaped, denotes an **atom**: a character to match, a class of
characters, or a place in the text. Whether an atom makes sense depends on the flags in force.

Patterns know no tables of characters beyond ASCII. Whatever would need one – the class `\d`, a
property, the folding of case – is refused, unless the flag `u` has been turned off before; and
without that flag nothing may match a byte that is no character by itself.
-/

namespace GpuMetrics.Log

/-! ### Flags -/

/-- The flags of a pattern, as far as they bear on whether it makes sense. -/
structure PatternFlags where
  /-- Letters match in either case (`i`). -/
  foldsCase : Bool := false
  /-- Characters beyond ASCII are whole characters (`u`). -/
  wide : Bool := true
  /-- Blanks and comments stand for nothing (`x`). -/
  verbose : Bool := false
  deriving DecidableEq, Repr

/-- The letters of all flags; some of them do not bear on whether a pattern makes sense. -/
def flagLetters : List Char := ['i', 'm', 's', 'U', 'u', 'R', 'x']

/-- The flags changed by a list of letters: those behind a minus sign are turned off. -/
def PatternFlags.change (f : PatternFlags) (letters : List Char) : PatternFlags :=
  let on := letters.takeWhile (· != '-')
  let state (letter : Char) (old : Bool) : Bool :=
    if on.contains letter then true else if letters.contains letter then false else old
  { foldsCase := state 'i' f.foldsCase
    wide := state 'u' f.wide
    verbose := state 'x' f.verbose }

/-! ### Atoms -/

/-- What an escape or a plain character denotes. -/
inductive PatternAtom where
  /-- A character, by its code point. It is a `byte` if two hexadecimal digits write it. -/
  | char (code : Nat) (byte : Bool)
  /-- The digits, blanks or word characters, or all others. -/
  | set (negated : Bool)
  /-- An edge of a word. -/
  | wordEdge
  /-- An end of the text. -/
  | textEnd
  deriving DecidableEq, Repr

/-- Whether an atom makes sense outside of a class. -/
def PatternFlags.admits (f : PatternFlags) : PatternAtom → Bool
  | .char code byte => if f.wide then !f.foldsCase else !byte || code < 0x80
  | .set negated => !f.wide && !negated
  | .wordEdge | .textEnd => true

/-- Whether an atom makes sense as a member of a class. -/
def PatternFlags.admitsMember (f : PatternFlags) : PatternAtom → Bool
  | .char code _ => if f.wide then !f.foldsCase else code < 0x80
  | .set negated => !f.wide && !negated
  | .wordEdge | .textEnd => false

/-- Whether a named class, or all characters outside of it, make sense as a member of a class. -/
def PatternFlags.admitsNamed (f : PatternFlags) (negated : Bool) : Bool :=
  if f.wide then !f.foldsCase else !negated

/-! ### Escapes -/

/-- The control characters that have an escape of one letter. -/
def controlEscapes : List (Char × Nat) :=
  [('a', 0x7), ('f', 0xc), ('t', 0x9), ('n', 0xa), ('r', 0xd), ('v', 0xb)]

/-- How many hexadecimal digits follow an escape letter. -/
def hexWidths : List (Char × Nat) := [('x', 2), ('u', 4), ('U', 8)]

/-- What a backslash and a character denote, hexadecimal escapes apart. Of the characters that are
no letters and no digits, those of ASCII stand for themselves. -/
def PatternAtom.ofEscape? (c : Char) : Option PatternAtom :=
  if ['d', 's', 'w'].contains c then some (.set false)
  else if ['D', 'S', 'W'].contains c then some (.set true)
  else if ['b', 'B', '<', '>'].contains c then some .wordEdge
  else if ['A', 'z'].contains c then some .textEnd
  else match controlEscapes.lookup c with
    | some code => some (.char code false)
    | none => if c.toNat < 0x80 && !c.isAlphanum then some (.char c.toNat false) else none

/-! ### Named classes -/

/-- The names of the classes that a class may have as members. -/
def classNames : List String :=
  ["alnum", "alpha", "ascii", "blank", "cntrl", "digit", "graph", "lower", "print", "punct",
   "space", "upper", "word", "xdigit"]

/-- Whether the named class that stands at the front of a text, behind its opening bracket, is
negated; nothing if none stands there. -/
def namedClass? (text : List Char) : Option Bool :=
  let named (negated : Bool) (text : List Char) : Option Bool :=
    match text.dropWhile (· != ':') with
    | ':' :: ']' :: _ =>
      if classNames.contains (String.ofList (text.takeWhile (· != ':'))) then some negated else none
    | _ => none
  match text with
  | ':' :: '^' :: rest => named true rest
  | ':' :: rest => named false rest
  | _ => none

end GpuMetrics.Log
