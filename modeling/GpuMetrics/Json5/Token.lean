import GpuMetrics.Text.Blank
import GpuMetrics.Text.Digits
import GpuMetrics.Text.Letter

/-!
# The tokens of a JSON5 text

A JSON5 text is a sequence of punctuation marks, strings, numbers and names, with white space and
comments between them. Strings and names are kept as the **pieces** they are written in, and
numbers as they are written: what a piece or a numeral means, and whether it means anything, is
asked only of those that are looked at.

Each reader returns what is left behind its token, and the left-over is shorter than the input,
so scanning ends.
-/

namespace GpuMetrics.Json5

open Text (isHexDigit)

/-! ### Character classes -/

/-- The characters that end a line. -/
def isLineTerminator (c : Char) : Bool :=
  c == '\n' || c == '\r' || c == '\u2028' || c == '\u2029'

/-- White space between tokens. -/
def isSpace (c : Char) : Bool :=
  c == '\t' || c == '\x0b' || c == '\x0c' || c == '\ufeff' || Text.isSpaceSeparator c ||
    isLineTerminator c

/-- A character with which an unquoted name may start. -/
def isNameStart (c : Char) : Bool := c == '$' || c == '_' || Text.isNameLetter c

/-- A character that may stand inside an unquoted name. -/
def isNamePart (c : Char) : Bool :=
  isNameStart c || Text.isNameMark c || c == '\u200c' || c == '\u200d'

/-! ### Tokens -/

/-- One written piece of a string or a name. -/
inductive Piece where
  /-- A character that stands for itself. -/
  | literal (c : Char)
  /-- A backslash and a character. -/
  | escaped (c : Char)
  /-- A backslash and a zero. -/
  | zero
  /-- A backslash, an `x` and two hexadecimal digits. -/
  | byte (high low : Char)
  /-- A backslash, a `u` and four hexadecimal digits. -/
  | unit (a b c d : Char)
  deriving DecidableEq, Repr

/-- A token. -/
inductive Token where
  | openBrace
  | closeBrace
  | openBracket
  | closeBracket
  | colon
  | comma
  | string (pieces : List Piece)
  | number (numeral : List Char)
  | name (pieces : List Piece)
  deriving DecidableEq, Repr

/-- The token of a punctuation mark. -/
def Token.punctuation? (c : Char) : Option Token :=
  if c = '\x7b' then some .openBrace
  else if c = '\x7d' then some .closeBrace
  else if c = '[' then some .openBracket
  else if c = ']' then some .closeBracket
  else if c = ':' then some .colon
  else if c = ',' then some .comma
  else none

/-! ### Strings and names -/

/-- Whether a backslash before `c` makes it stand for itself or for a control character. -/
def isEscapable (c : Char) : Bool := !c.isDigit && c != 'x' && c != 'u' && !isLineTerminator c

/-- A piece in front of the pieces that were read after it. -/
def Piece.before (p : Piece) (r : Option (List Piece × List Char)) :
    Option (List Piece × List Char) :=
  r.map fun (pieces, left) => (p :: pieces, left)

@[grind =] theorem Piece.before_eq_some {p : Piece} {r : Option (List Piece × List Char)}
    {pieces : List Piece} {left : List Char} :
    p.before r = some (pieces, left) ↔ ∃ tail, r = some (tail, left) ∧ pieces = p :: tail := by
  cases r with
  | none => simp [Piece.before]
  | some r => grind [Piece.before]

/-- The pieces of a string up to its closing quote. A backslash before a line end stands for
nothing. -/
def readString? (close : Char) : List Char → Option (List Piece × List Char)
  | [] => none
  | '\\' :: rest =>
    match rest with
    | 'x' :: h :: l :: more =>
      if isHexDigit h && isHexDigit l then (Piece.byte h l).before (readString? close more)
      else none
    | 'u' :: a :: b :: c :: d :: more =>
      if isHexDigit a && isHexDigit b && isHexDigit c && isHexDigit d then
        (Piece.unit a b c d).before (readString? close more)
      else none
    | '0' :: more => Piece.zero.before (readString? close more)
    | '\r' :: '\n' :: more => readString? close more
    | c :: more =>
      if isLineTerminator c then readString? close more
      else if isEscapable c then (Piece.escaped c).before (readString? close more)
      else none
    | [] => none
  | c :: rest =>
    if c = close then some ([], rest)
    else if isLineTerminator c then none
    else (Piece.literal c).before (readString? close rest)

/-- The pieces of a name from its second character on. -/
def readNameTail : List Char → List Piece × List Char
  | '\\' :: 'u' :: a :: b :: c :: d :: rest =>
    if isHexDigit a && isHexDigit b && isHexDigit c && isHexDigit d then
      let r := readNameTail rest
      (.unit a b c d :: r.1, r.2)
    else ([], '\\' :: 'u' :: a :: b :: c :: d :: rest)
  | c :: rest =>
    if isNamePart c then
      let r := readNameTail rest
      (.literal c :: r.1, r.2)
    else ([], c :: rest)
  | [] => ([], [])

/-- A name that starts with the character `c`. -/
def readName? (c : Char) (rest : List Char) : Option (List Piece × List Char) :=
  if isNameStart c then
    let r := readNameTail rest
    some (.literal c :: r.1, r.2)
  else if c = '\\' then
    match rest with
    | 'u' :: x :: y :: z :: w :: more =>
      if isHexDigit x && isHexDigit y && isHexDigit z && isHexDigit w then
        let r := readNameTail more
        some (.unit x y z w :: r.1, r.2)
      else none
    | _ => none
  else none

/-! ### Numerals -/

/-- The sign at the front of a text, if there is one. -/
def frontSign : List Char → List Char
  | '+' :: _ => ['+']
  | '-' :: _ => ['-']
  | _ => []

/-- The exponent at the front of a text: `e`, a sign if there is one, and digits; or nothing. -/
def readExponent : List Char → List Char × List Char
  | [] => ([], [])
  | e :: rest =>
    let sign := frontSign rest
    let unsigned := rest.drop sign.length
    let digits := unsigned.takeWhile Char.isDigit
    if (e = 'e' ∨ e = 'E') ∧ digits ≠ [] then
      (e :: (sign ++ digits), unsigned.dropWhile Char.isDigit)
    else ([], e :: rest)

/-- The hexadecimal numeral at the front of a text. -/
def readHex? : List Char → Option (List Char × List Char)
  | '0' :: x :: rest =>
    let digits := rest.takeWhile isHexDigit
    if (x = 'x' ∨ x = 'X') ∧ digits ≠ [] then some ('0' :: x :: digits, rest.dropWhile isHexDigit)
    else none
  | _ => none

/-- The whole part of a decimal numeral: a single zero, or digits that do not start with one. -/
def readWhole (text : List Char) : List Char × List Char :=
  match text with
  | '0' :: rest => (['0'], rest)
  | _ => (text.takeWhile Char.isDigit, text.dropWhile Char.isDigit)

/-- The decimal numeral at the front of a text: a point may follow the whole part, and digits the
point; without a whole part there must be digits behind the point. -/
def readDecimal? (text : List Char) : Option (List Char × List Char) :=
  let (whole, afterWhole) := readWhole text
  match afterWhole with
  | '.' :: rest =>
    let digits := rest.takeWhile Char.isDigit
    if whole = [] ∧ digits = [] then none
    else
      let (exponent, left) := readExponent (rest.dropWhile Char.isDigit)
      some (whole ++ '.' :: (digits ++ exponent), left)
  | _ =>
    if whole = [] then none
    else
      let (exponent, left) := readExponent afterWhole
      some (whole ++ exponent, left)

/-- The name of the infinite value. -/
def infinityWord : List Char := ['I', 'n', 'f', 'i', 'n', 'i', 't', 'y']

/-- The name of the value that is not a number. -/
def nanWord : List Char := ['N', 'a', 'N']

/-- The unsigned numeral at the front of a text that starts with no letter. -/
def readUnsigned? (text : List Char) : Option (List Char × List Char) :=
  (readHex? text).orElse fun _ => readDecimal? text

/-- The numeral at the front of a text. The two named values are numerals only behind a sign;
without one they are names. -/
def readNumber? : List Char → Option (List Char × List Char)
  | [] => none
  | c :: rest =>
    if c = '+' ∨ c = '-' then
      if infinityWord.isPrefixOf rest then some (c :: infinityWord, rest.drop infinityWord.length)
      else if nanWord.isPrefixOf rest then some (c :: nanWord, rest.drop nanWord.length)
      else (readUnsigned? rest).map fun r => (c :: r.1, r.2)
    else readUnsigned? (c :: rest)

/-! ### Comments and the whole text -/

/-- What follows the end of a block comment. -/
def afterBlockComment? : List Char → Option (List Char)
  | '*' :: '/' :: rest => some rest
  | _ :: rest => afterBlockComment? rest
  | [] => none

/-- The token that starts with `c`, and what follows it. -/
def Token.read? (c : Char) (rest : List Char) : Option (Token × List Char) :=
  match Token.punctuation? c with
  | some t => some (t, rest)
  | none =>
    if c = '"' ∨ c = '\'' then (readString? c rest).map fun r => (.string r.1, r.2)
    else
      match readNumber? (c :: rest) with
      | some r => some (.number r.1, r.2)
      | none => (readName? c rest).map fun r => (.name r.1, r.2)

/-- A string leaves less than it was given. -/
theorem readString?_length {close : Char} {text left : List Char} {pieces : List Piece}
    (h : readString? close text = some (pieces, left)) : left.length < text.length := by
  fun_induction readString? close text generalizing pieces left <;> grind

/-- A name's tail leaves no more than it was given. -/
theorem readNameTail_length (text : List Char) :
    (readNameTail text).2.length ≤ text.length := by
  fun_induction readNameTail text <;> simp_all <;> grind

theorem readName?_length {c : Char} {rest left : List Char} {pieces : List Piece}
    (h : readName? c rest = some (pieces, left)) : left.length ≤ rest.length := by
  unfold readName? at h
  have := readNameTail_length rest
  split at h
  · grind
  · split at h
    · split at h
      · rename_i more
        have := readNameTail_length more
        grind
      · cases h
    · cases h

theorem length_dropWhile_le {α : Type} (p : α → Bool) (l : List α) :
    (l.dropWhile p).length ≤ l.length := by
  induction l with
  | nil => simp
  | cons a l ih => grind [List.dropWhile_cons]

theorem readExponent_length (text : List Char) :
    (readExponent text).2.length ≤ text.length := by
  cases text with
  | nil => simp [readExponent]
  | cons e rest =>
    have := length_dropWhile_le Char.isDigit (rest.drop (frontSign rest).length)
    simp only [readExponent]
    split
    · simp only [List.length_drop, List.length_cons] at this ⊢
      omega
    · exact Nat.le_refl _

theorem readHex?_length {text numeral left : List Char}
    (h : readHex? text = some (numeral, left)) : left.length < text.length := by
  unfold readHex? at h
  split at h
  · rename_i x rest
    have := length_dropWhile_le isHexDigit rest
    grind
  · cases h

theorem readWhole_length (text : List Char) :
    (readWhole text).2.length ≤ text.length ∧
      ((readWhole text).1 ≠ [] → (readWhole text).2.length < text.length) := by
  unfold readWhole
  split
  · simp
  · refine ⟨length_dropWhile_le _ _, fun h => ?_⟩
    have hsplit := List.takeWhile_append_dropWhile (p := Char.isDigit) (l := text)
    have : (text.takeWhile Char.isDigit).length + (text.dropWhile Char.isDigit).length
        = text.length := by
      rw [← List.length_append, hsplit]
    have := List.length_pos_iff.2 h
    dsimp only at this ⊢
    omega

theorem readDecimal?_length {text numeral left : List Char}
    (h : readDecimal? text = some (numeral, left)) : left.length < text.length := by
  have hw := readWhole_length text
  unfold readDecimal? at h
  split at h
  rename_i whole afterWhole heq
  rw [heq] at hw
  dsimp only at hw
  split at h
  · rename_i rest
    have h1 := length_dropWhile_le Char.isDigit rest
    have h2 := readExponent_length (rest.dropWhile Char.isDigit)
    grind
  · have h2 := readExponent_length afterWhole
    grind

theorem readNumber?_length {text numeral left : List Char}
    (h : readNumber? text = some (numeral, left)) : left.length < text.length := by
  have unsigned {t n l : List Char} (h : readUnsigned? t = some (n, l)) : l.length < t.length := by
    unfold readUnsigned? at h
    cases hx : readHex? t with
    | some r =>
      rw [hx] at h
      obtain rfl : r = (n, l) := by simpa using h
      exact readHex?_length hx
    | none =>
      rw [hx] at h
      exact readDecimal?_length (by simpa using h)
  unfold readNumber? at h
  split at h
  · cases h
  · split at h
    · split at h
      · grind
      · split at h
        · grind
        · obtain ⟨r, hr, heq⟩ := Option.map_eq_some_iff.1 h
          have := unsigned (show readUnsigned? _ = some (r.1, r.2) from hr)
          grind
    · exact unsigned h

theorem afterBlockComment?_length {text left : List Char}
    (h : afterBlockComment? text = some left) : left.length < text.length := by
  fun_induction afterBlockComment? text <;> grind

/-- **Every token leaves less than it was given.** -/
theorem Token.read?_length {c : Char} {rest left : List Char} {t : Token}
    (h : Token.read? c rest = some (t, left)) : left.length < (c :: rest).length := by
  unfold Token.read? at h
  split at h
  · grind
  · split at h
    · obtain ⟨r, hr, heq⟩ := Option.map_eq_some_iff.1 h
      have := readString?_length (show readString? c rest = some (r.1, r.2) from hr)
      grind
    · split at h
      · rename_i r hr
        have := readNumber?_length (show readNumber? (c :: rest) = some (r.1, r.2) from hr)
        grind
      · obtain ⟨r, hr, heq⟩ := Option.map_eq_some_iff.1 h
        have := readName?_length (show readName? c rest = some (r.1, r.2) from hr)
        grind

/-- The tokens of a text, if it consists of tokens, white space and comments. -/
def Token.scan? (text : List Char) : Option (List Token) :=
  match text with
  | [] => some []
  | c :: rest =>
    if isSpace c then Token.scan? rest
    else if c = '/' then
      match rest with
      | '*' :: more =>
        match _h : afterBlockComment? more with
        | some left => Token.scan? left
        | none => none
      | '/' :: more => Token.scan? (more.dropWhile (!isLineTerminator ·))
      | _ => none
    else
      match _h : Token.read? c rest with
      | some (t, left) => (Token.scan? left).map (t :: ·)
      | none => none
termination_by text.length
decreasing_by
  · simp
  · have := afterBlockComment?_length _h
    simp only [List.length_cons]
    omega
  · have := length_dropWhile_le (!isLineTerminator ·) more
    simp only [List.length_cons]
    omega
  · exact Token.read?_length _h

end GpuMetrics.Json5
