import GpuMetrics.Binary64.Decimal
import GpuMetrics.Binary64.Shortest
import GpuMetrics.Json5.Value
import GpuMetrics.Text.Quoted

/-!
# What strings and numbers mean

The pieces of a string are put together to a text, in which two escaped surrogates make one
character; a numeral is an integer or a binary64 number. Both can fail although the JSON5 text is
well formed, and such a failure (`DecodeError`) is reported when the string or the number is
looked at.
-/

namespace GpuMetrics.Json5

/-- What was found where something else was expected. -/
inductive Found where
  | null
  | boolean (b : Bool)
  | integer (i : Int)
  | float (x : Binary64)
  | string (s : String)
  | sequence
  | map
  deriving DecidableEq, Repr

/-- Why a well-formed text does not mean what was expected. -/
inductive DecodeError where
  /-- Hexadecimal digits that are no number of 32 bits. -/
  | badHex
  /-- A numeral without point or exponent that is no integer of 64 bits. -/
  | badInteger
  /-- A numeral that is no number. -/
  | badNumber
  /-- A number beyond the largest one. -/
  | tooLarge
  /-- The second surrogate of a pair without the first. -/
  | loneTrailSurrogate
  /-- The first surrogate of a pair at the end of a string. -/
  | noTrailSurrogate
  /-- The first surrogate of a pair before something else than the second. -/
  | badTrailSurrogate
  /-- A value of the wrong kind. -/
  | wrongKind (found : Found) (expected : String)
  /-- A field that is given twice. -/
  | duplicateField (name : String)
  /-- A word that is none of the choices. -/
  | unknownChoice (word : String) (choices : List String)
  /-- An object without members where its first key would be the choice. -/
  | emptyChoice
  /-- Neither a string nor an object where a choice was expected. -/
  | noChoice
  deriving DecidableEq, Repr

/-- A number as it appears in a report: a finite one always with a point. -/
def pointedText (x : Binary64) : String :=
  let text := x.display
  if x.isFinite && !text.toList.contains '.' then text ++ ".0" else text

/-- The wording of what was found. -/
def Found.message : Found → String
  | .null => "unit value"
  | .boolean b => s!"boolean \x60{b}\x60"
  | .integer i => s!"integer \x60{i}\x60"
  | .float x => s!"floating point \x60{pointedText x}\x60"
  | .string s => s!"string {Text.quoted s}"
  | .sequence => "sequence"
  | .map => "map"

/-- A list of choices as it appears in a report. -/
def choicesText : List String → String
  | [a] => s!"\x60{a}\x60"
  | [a, b] => s!"\x60{a}\x60 or \x60{b}\x60"
  | choices => "one of " ++ String.intercalate ", " (choices.map fun c => s!"\x60{c}\x60")

/-- The wording of an error. -/
def DecodeError.message : DecodeError → String
  | .badHex => "error parsing hex"
  | .badInteger => "error parsing integer"
  | .badNumber => "error parsing number"
  | .tooLarge => "error parsing number: too large"
  | .loneTrailSurrogate => "unexpected unicode trail surrogate"
  | .noTrailSurrogate => "missing unicode trail surrogate"
  | .badTrailSurrogate => "expecting unicode trail surrogate"
  | .wrongKind found expected => s!"invalid type: {found.message}, expected {expected}"
  | .duplicateField name => s!"duplicate field \x60{name}\x60"
  | .unknownChoice word choices =>
    s!"unknown variant \x60{word}\x60, expected {choicesText choices}"
  | .emptyChoice => "expected a nonempty object"
  | .noChoice => "expected a string or an object"

/-- The number of up to 32 bits that hexadecimal digits denote. -/
def hexNumber? (digits : List Char) : Except DecodeError Nat :=
  let n := Text.natOfHexDigits digits
  if digits = [] || !digits.all Text.isHexDigit || 0x100000000 ≤ n then .error .badHex else .ok n

/-! ### Strings -/

/-- The characters of a piece, without its backslash and the letter that introduces digits. -/
def Piece.body : Piece → List Char
  | .literal c => [c]
  | .escaped c => [c]
  | .zero => ['0']
  | .byte h l => [h, l]
  | .unit a b c d => [a, b, c, d]

/-- The character that a backslash and `c` stand for. -/
def unescape (c : Char) : Char :=
  if c = 'b' then '\x08'
  else if c = 'f' then '\x0c'
  else if c = 'n' then '\n'
  else if c = 'r' then '\r'
  else if c = 't' then '\t'
  else if c = 'v' then '\x0b'
  else c

/-- The character of a pair of surrogates. The two halves are joined bit by bit. -/
def joinSurrogates (lead trail : Nat) : Char :=
  Char.ofNat (((lead - 0xd800) * 0x400) ||| (trail - 0xdc00 + 0x10000))

/-- The text of a string. After the first surrogate of a pair, whatever comes next is read as the
digits of the second. -/
def textOf? : List Piece → Except DecodeError (List Char)
  | [] => .ok []
  | .literal c :: rest => (textOf? rest).map (c :: ·)
  | .escaped c :: rest => (textOf? rest).map (unescape c :: ·)
  | .zero :: rest => (textOf? rest).map ('\x00' :: ·)
  | .byte h l :: rest =>
    match hexNumber? [h, l] with
    | .error e => .error e
    | .ok n => (textOf? rest).map (Char.ofNat n :: ·)
  | .unit a b c d :: rest =>
    match hexNumber? [a, b, c, d] with
    | .error e => .error e
    | .ok n =>
      if 0xdc00 ≤ n ∧ n ≤ 0xdfff then .error .loneTrailSurrogate
      else if 0xd800 ≤ n ∧ n ≤ 0xdbff then
        match rest with
        | [] => .error .noTrailSurrogate
        | p :: more =>
          match hexNumber? p.body with
          | .error e => .error e
          | .ok m =>
            if m < 0xdc00 ∨ 0xdfff < m then .error .badTrailSurrogate
            else (textOf? more).map (joinSurrogates n m :: ·)
      else (textOf? rest).map (Char.ofNat n :: ·)

/-- The text of a string or a key. -/
def stringOf? (pieces : List Piece) : Except DecodeError String :=
  (textOf? pieces).map String.ofList

/-! ### Numbers -/

/-- A number: an integer or a binary64 number. -/
inductive Number where
  | integer (i : Int)
  | float (x : Binary64)
  deriving DecidableEq, Repr

/-- The hexadecimal digits of an unsigned hexadecimal numeral. -/
def hexPart? : List Char → Option (List Char)
  | '0' :: x :: d :: rest => if x = 'x' ∨ x = 'X' then some (d :: rest) else none
  | _ => none

/-- The integer of 64 bits that a decimal numeral denotes. -/
def decimalInteger? (numeral : List Char) : Except DecodeError Int :=
  let (negative, digits) := Binary64.splitSign numeral
  if digits = [] || !digits.all Char.isDigit then .error .badInteger
  else
    let n : Int := Text.natOfDigits digits
    let i := if negative then -n else n
    if -0x8000000000000000 ≤ i ∧ i < 0x8000000000000000 then .ok i else .error .badInteger

/-- The number that a numeral denotes. A numeral with a point, a decimal one with an `e` in it,
and the named values except behind a plus sign are binary64 numbers; all others are integers. -/
def Number.ofNumeral? (numeral : List Char) : Except DecodeError Number :=
  let named (word : List Char) : Bool := numeral == word || numeral == '-' :: word
  if named infinityWord then .ok (.float (Binary64.infinity (numeral.head? == some '-')))
  else if named nanWord then .ok (.float Binary64.nan)
  else if numeral.contains '.' then float numeral
  else
    match hexPart? numeral with
    | some digits => (hexNumber? digits).map fun n => .integer n
    | none =>
      if numeral.contains 'e' || numeral.contains 'E' then float numeral
      else (decimalInteger? numeral).map .integer
where
  /-- The finite binary64 number that a numeral denotes. -/
  float (numeral : List Char) : Except DecodeError Number :=
    match Binary64.ofText? numeral with
    | none => .error .badNumber
    | some x => if x.isFinite then .ok (.float x) else .error .tooLarge

end GpuMetrics.Json5
