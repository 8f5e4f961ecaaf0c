import GpuMetrics.Json5.Scalar
import GpuMetrics.Json5.Value
import Mathlib.Data.List.Forall2

/-!
# Writing a document

A value is written in two steps. Its **tokens** (`GpuMetrics.Json5.Value.tokens`) are strings,
names, numerals and the six structural marks, with a comma between two entries and none behind the
last. The tokens are then **laid out** in a text (`GpuMetrics.Json5.LaidOut`), with white space
wherever one likes. Strings are written as in JSON: some characters have to be escaped, others may
be (`GpuMetrics.Json5.Piece.Spells`).

The reader undoes both steps. Tokens are scanned back from any layout
(`GpuMetrics.Json5.scan?_of_laidOut`), a value is read back from its tokens whatever follows them
(`GpuMetrics.Json5.Value.reads_tokens`), and a string is read back from any of its spellings
(`GpuMetrics.Json5.stringOf?_of_spells`).
-/

namespace GpuMetrics.Json5

open Text (isHexDigit natOfHexDigits)

/-! ### Strings -/

/-- The characters that do not stand for themselves in a string: quotes, backslashes, control
characters, and the line ends beyond ASCII. -/
def mustEscape (c : Char) : Bool :=
  c == '"' || c == '\\' || c.toNat < 0x20 || c == '\u2028' || c == '\u2029'

/-- The letters behind a backslash, and the characters that they stand for. -/
def shortEscapes : List (Char × Char) :=
  [('"', '"'), ('\\', '\\'), ('/', '/'), ('b', '\x08'), ('f', '\x0c'), ('n', '\n'), ('r', '\r'),
   ('t', '\t')]

/-- How a character may be written in a string. -/
inductive Piece.Spells : Piece → Char → Prop where
  /-- As itself. -/
  | literal {c : Char} (plain : mustEscape c = false) : Spells (.literal c) c
  /-- By a letter behind a backslash. -/
  | escaped {letter c : Char} (short : (letter, c) ∈ shortEscapes) : Spells (.escaped letter) c
  /-- By the four hexadecimal digits of its code. -/
  | unit {c w x y z : Char} (digits : [w, x, y, z].all isHexDigit = true)
      (code : natOfHexDigits [w, x, y, z] = c.toNat) : Spells (.unit w x y z) c

instance (p : Piece) (c : Char) : Decidable (p.Spells c) :=
  match p with
  | .literal d =>
    decidable_of_iff (d = c ∧ mustEscape c = false)
      ⟨by rintro ⟨rfl, h⟩; exact .literal h, by rintro ⟨h⟩; exact ⟨rfl, h⟩⟩
  | .escaped letter =>
    decidable_of_iff ((letter, c) ∈ shortEscapes) ⟨.escaped, by rintro (_ | h); exact h⟩
  | .unit w x y z =>
    decidable_of_iff ([w, x, y, z].all isHexDigit = true ∧
        natOfHexDigits [w, x, y, z] = c.toNat)
      ⟨fun h => .unit h.1 h.2, by rintro (_ | _ | ⟨h, h'⟩); exact ⟨h, h'⟩⟩
  | .zero => isFalse nofun
  | .byte _ _ => isFalse nofun

/-- Pieces that spell a text, one for each of its characters. -/
def Spells (pieces : List Piece) (s : String) : Prop := List.Forall₂ Piece.Spells pieces s.toList

instance (pieces : List Piece) (s : String) : Decidable (Spells pieces s) :=
  inferInstanceAs (Decidable (List.Forall₂ Piece.Spells pieces s.toList))

/-- A hexadecimal digit. -/
def hexDigit (n : Nat) : Char := ['0', '1', '2', '3', '4', '5', '6', '7', '8', '9', 'a', 'b', 'c',
  'd', 'e', 'f'].getD n '0'

theorem spells_control {c : Char} (h : c.toNat < 0x20) :
    Piece.Spells (.unit '0' '0' (hexDigit (c.toNat / 16)) (hexDigit (c.toNat % 16))) c := by
  have hdigits : ∀ n < 0x20,
      ['0', '0', hexDigit (n / 16), hexDigit (n % 16)].all isHexDigit = true ∧
      natOfHexDigits ['0', '0', hexDigit (n / 16), hexDigit (n % 16)] = n := by
    decide
  exact .unit (hdigits _ h).1 (hdigits _ h).2

/-- **Every character can be written.** -/
theorem exists_piece_spells (c : Char) : ∃ p : Piece, p.Spells c := by
  by_cases hplain : mustEscape c = false
  · exact ⟨_, .literal hplain⟩
  · simp only [mustEscape, Bool.not_eq_false, Bool.or_eq_true, beq_iff_eq,
      decide_eq_true_eq] at hplain
    rcases hplain with (((rfl | rfl) | hcontrol) | rfl) | rfl
    · exact ⟨.escaped '"', .escaped (by decide)⟩
    · exact ⟨.escaped '\\', .escaped (by decide)⟩
    · exact ⟨_, spells_control hcontrol⟩
    · exact ⟨.unit '2' '0' '2' '8', .unit (by decide) (by decide)⟩
    · exact ⟨.unit '2' '0' '2' '9', .unit (by decide) (by decide)⟩

theorem exists_spells (s : String) : ∃ pieces, Spells pieces s := by
  have hchars (cs : List Char) : ∃ pieces, List.Forall₂ Piece.Spells pieces cs := by
    induction cs with
    | nil => exact ⟨[], .nil⟩
    | cons c cs ih =>
      obtain ⟨p, hp⟩ := exists_piece_spells c
      obtain ⟨pieces, hpieces⟩ := ih
      exact ⟨p :: pieces, .cons hp hpieces⟩
  exact hchars s.toList

theorem unescape_of_mem {letter c : Char} (h : (letter, c) ∈ shortEscapes) :
    unescape letter = c := by
  simp only [shortEscapes, List.mem_cons, Prod.mk.injEq, List.not_mem_nil, or_false] at h
  rcases h with ⟨rfl, rfl⟩ | ⟨rfl, rfl⟩ | ⟨rfl, rfl⟩ | ⟨rfl, rfl⟩ | ⟨rfl, rfl⟩ | ⟨rfl, rfl⟩ |
    ⟨rfl, rfl⟩ | ⟨rfl, rfl⟩ <;> rfl

theorem not_surrogate (c : Char) : ¬(0xd800 ≤ c.toNat ∧ c.toNat ≤ 0xdfff) := by
  rintro ⟨hlow, hhigh⟩
  have hvalid : c.toNat < 0xd800 ∨ (0xdfff < c.toNat ∧ c.toNat < 0x110000) := c.valid
  omega

theorem hexNumber?_of_digits {w x y z : Char} (h : [w, x, y, z].all isHexDigit = true)
    {c : Char} (hcode : natOfHexDigits [w, x, y, z] = c.toNat) :
    hexNumber? [w, x, y, z] = .ok c.toNat := by
  have hbound : ¬0x100000000 ≤ c.toNat := by
    have hvalid : c.toNat < 0xd800 ∨ (0xdfff < c.toNat ∧ c.toNat < 0x110000) := c.valid
    omega
  rw [hexNumber?, hcode, h]
  simp [hbound]

/-- **Every spelling of a string is read back.** -/
theorem textOf?_of_spells {pieces : List Piece} {cs : List Char}
    (h : List.Forall₂ Piece.Spells pieces cs) : textOf? pieces = .ok cs := by
  induction h with
  | nil => rfl
  | @cons p c pieces cs hp _ ih =>
    cases hp with
    | literal _ =>
      rw [textOf?, ih]
      rfl
    | escaped short =>
      rw [textOf?, ih, unescape_of_mem short]
      rfl
    | unit digits code =>
      have hsurrogate := not_surrogate c
      have htrail : ¬(0xdc00 ≤ c.toNat ∧ c.toNat ≤ 0xdfff) := by omega
      have hlead : ¬(0xd800 ≤ c.toNat ∧ c.toNat ≤ 0xdbff) := by omega
      rw [textOf?]
      simp only [hexNumber?_of_digits digits code, htrail, hlead, if_false, ih, Except.map,
        Char.ofNat_toNat]

theorem stringOf?_of_spells {pieces : List Piece} {s : String} (h : Spells pieces s) :
    stringOf? pieces = .ok s := by
  rw [stringOf?, textOf?_of_spells h, Except.map, String.ofList_toList]

/-! ### Layouts -/

/-- A piece as it stands in a text. -/
def Piece.text : Piece → List Char
  | .literal c => [c]
  | .escaped c => ['\\', c]
  | .zero => ['\\', '0']
  | .byte h l => ['\\', 'x', h, l]
  | .unit w x y z => ['\\', 'u', w, x, y, z]

/-- The structural marks. -/
def Token.mark? : Token → Option Char
  | .openBrace => some '\x7b'
  | .closeBrace => some '\x7d'
  | .openBracket => some '['
  | .closeBracket => some ']'
  | .colon => some ':'
  | .comma => some ','
  | _ => none

/-- The white space of JSON. -/
def blanks : List Char := [' ', '\t', '\n', '\r']

/-- Tokens and a text in which they stand one after the other, with white space around them. Strings
stand between double quotes. -/
inductive LaidOut : List Token → List Char → Prop where
  | nil : LaidOut [] []
  | blank {c : Char} (blank : c ∈ blanks) {tokens : List Token} {text : List Char}
      (rest : LaidOut tokens text) : LaidOut tokens (c :: text)
  | mark {t : Token} {c : Char} (mark : t.mark? = some c) {tokens : List Token} {text : List Char}
      (rest : LaidOut tokens text) : LaidOut (t :: tokens) (c :: text)
  | string {pieces : List Piece} {s : String} (spells : Spells pieces s) {tokens : List Token}
      {text : List Char} (rest : LaidOut tokens text) :
      LaidOut (.string pieces :: tokens) ('"' :: (pieces.flatMap Piece.text ++ '"' :: text))

/-- The tokens of a document without names and numbers. -/
inductive Token.IsWritten : Token → Prop where
  | mark {t : Token} {c : Char} (mark : t.mark? = some c) : IsWritten t
  | string {pieces : List Piece} {s : String} (spells : Spells pieces s) :
      IsWritten (.string pieces)

/-- A token as it stands in a text. -/
def Token.text : Token → List Char
  | .string pieces => '"' :: (pieces.flatMap Piece.text ++ ['"'])
  | t => t.mark?.toList

/-- Tokens one after the other, each behind a gap. -/
def spaced (gap : List Char) (tokens : List Token) : List Char :=
  tokens.flatMap fun t => gap ++ t.text

theorem LaidOut.blanks {gap : List Char} (hgap : ∀ c ∈ gap, c ∈ blanks) {tokens : List Token}
    {text : List Char} (h : LaidOut tokens text) : LaidOut tokens (gap ++ text) := by
  induction gap with
  | nil => exact h
  | cons c gap ih =>
    obtain ⟨hc, hrest⟩ := List.forall_mem_cons.mp hgap
    exact .blank hc (ih hrest)

/-- **Written tokens can be laid out**, with any gap of white space. -/
theorem laidOut_spaced {gap : List Char} (hgap : ∀ c ∈ gap, c ∈ blanks) {tokens : List Token}
    (h : ∀ t ∈ tokens, t.IsWritten) : LaidOut tokens (spaced gap tokens) := by
  induction tokens with
  | nil => exact .nil
  | cons t tokens ih =>
    obtain ⟨ht, htokens⟩ := List.forall_mem_cons.mp h
    rw [spaced, List.flatMap_cons, List.append_assoc]
    refine LaidOut.blanks hgap ?_
    cases ht with
    | mark mark =>
      have htext : t.text = t.mark?.toList := by
        cases t <;> first | rfl | cases mark
      rw [htext, mark]
      exact .mark mark (ih htokens)
    | string spells =>
      rw [Token.text, List.cons_append, List.append_assoc]
      exact .string spells (ih htokens)

theorem isLineTerminator_eq_false {c : Char} (h : mustEscape c = false) :
    isLineTerminator c = false := by
  simp only [mustEscape, Bool.or_eq_false_iff, beq_eq_false_iff_ne, decide_eq_false_iff_not] at h
  obtain ⟨⟨⟨⟨-, -⟩, hcontrol⟩, hline⟩, hparagraph⟩ := h
  simp only [isLineTerminator, Bool.or_eq_false_iff, beq_eq_false_iff_ne]
  refine ⟨⟨⟨?_, ?_⟩, hline⟩, hparagraph⟩
  · rintro rfl
    exact hcontrol (by decide)
  · rintro rfl
    exact hcontrol (by decide)

/-- **A piece is scanned back from the text**, whatever follows it in the string. -/
theorem readString?_text_append {p : Piece} {c : Char} (hp : p.Spells c) (text : List Char) :
    readString? '"' (p.text ++ text) = p.before (readString? '"' text) := by
  cases hp with
  | literal plain =>
    have hterminator := isLineTerminator_eq_false plain
    simp only [mustEscape, Bool.or_eq_false_iff, beq_eq_false_iff_ne] at plain
    obtain ⟨⟨⟨⟨hquote, hbackslash⟩, -⟩, -⟩, -⟩ := plain
    rw [Piece.text, List.singleton_append, readString?]
    · simp [hquote, hterminator]
    · exact hbackslash
  | escaped short =>
    simp only [shortEscapes, List.mem_cons, Prod.mk.injEq, List.not_mem_nil, or_false] at short
    rcases short with ⟨rfl, rfl⟩ | ⟨rfl, rfl⟩ | ⟨rfl, rfl⟩ | ⟨rfl, rfl⟩ | ⟨rfl, rfl⟩ | ⟨rfl, rfl⟩ |
      ⟨rfl, rfl⟩ | ⟨rfl, rfl⟩ <;> simp [Piece.text, readString?, isLineTerminator, isEscapable]
  | unit digits _ =>
    simp only [List.all_cons, List.all_nil, Bool.and_true, Bool.and_eq_true] at digits
    simp [Piece.text, readString?, digits]

/-- **A string is scanned back from between its quotes.** -/
theorem readString?_of_spells {pieces : List Piece} {cs : List Char}
    (h : List.Forall₂ Piece.Spells pieces cs) (text : List Char) :
    readString? '"' (pieces.flatMap Piece.text ++ '"' :: text) = some (pieces, text) := by
  induction h with
  | nil => simp [readString?]
  | cons hp _ ih =>
    rw [List.flatMap_cons, List.append_assoc, readString?_text_append hp, ih]
    rfl

theorem read?_mark {t : Token} {c : Char} (h : t.mark? = some c) (text : List Char) :
    Token.read? c text = some (t, text) := by
  cases t <;> simp only [Token.mark?, Option.some.injEq, reduceCtorEq] at h <;> subst h <;> rfl

/-- A structural mark is neither white space nor the beginning of a comment. -/
theorem not_isSpace_mark {t : Token} {c : Char} (h : t.mark? = some c) :
    isSpace c = false ∧ c ≠ '/' := by
  cases t <;> simp only [Token.mark?, Option.some.injEq, reduceCtorEq] at h <;> subst h <;> decide

theorem scan?_cons_of_isSpace {c : Char} (h : isSpace c = true) (text : List Char) :
    Token.scan? (c :: text) = Token.scan? text := by
  rw [Token.scan?.eq_def]
  simp only [h, if_true]

theorem scan?_cons_of_read? {c : Char} (hspace : isSpace c = false) (hcomment : c ≠ '/')
    {text left : List Char} {t : Token} (hread : Token.read? c text = some (t, left)) :
    Token.scan? (c :: text) = (Token.scan? left).map (t :: ·) := by
  rw [Token.scan?.eq_def]
  simp only [hspace, hcomment, Bool.false_eq_true, if_false]
  split
  · next heq =>
    rw [hread] at heq
    cases heq
    rfl
  · next heq => simp [hread] at heq

/-- **Tokens are scanned back from any layout.** -/
theorem scan?_of_laidOut {tokens : List Token} {text : List Char} (h : LaidOut tokens text) :
    Token.scan? text = some tokens := by
  induction h with
  | nil => rw [Token.scan?]
  | @blank c blank tokens text _ ih =>
    have hspaces : blanks.all isSpace = true := by decide
    have hspace : isSpace c = true := List.all_eq_true.mp hspaces c blank
    rw [scan?_cons_of_isSpace hspace, ih]
  | @mark t c mark tokens text _ ih =>
    obtain ⟨hspace, hcomment⟩ := not_isSpace_mark mark
    rw [scan?_cons_of_read? hspace hcomment (read?_mark mark text), ih]
    rfl
  | @string pieces s spells tokens text _ ih =>
    have hread : Token.read? '"' (pieces.flatMap Piece.text ++ '"' :: text)
        = some (.string pieces, text) := by
      rw [Token.read?, readString?_of_spells spells]
      rfl
    rw [scan?_cons_of_read? (by decide) (by decide) hread, ih]
    rfl

/-! ### Values -/

namespace Value

/-- A name that is written without escapes. -/
def word (name : List Char) : Token := .name (name.map .literal)

mutual

/-- The tokens of a value. -/
def tokens : Value → List Token
  | .null => [word ['n', 'u', 'l', 'l']]
  | .boolean true => [word ['t', 'r', 'u', 'e']]
  | .boolean false => [word ['f', 'a', 'l', 's', 'e']]
  | .string pieces => [.string pieces]
  | .number numeral => [.number numeral]
  | .array items => .openBracket :: itemTokens items
  | .object members => .openBrace :: memberTokens members

/-- The tokens of the items of an array, up to and with the closing bracket. -/
def itemTokens : List Value → List Token
  | [] => [.closeBracket]
  | [v] => tokens v ++ [.closeBracket]
  | v :: w :: rest => tokens v ++ .comma :: itemTokens (w :: rest)

/-- The tokens of the members of an object, up to and with the closing brace. -/
def memberTokens : List (List Piece × Value) → List Token
  | [] => [.closeBrace]
  | [(key, v)] => .string key :: .colon :: (tokens v ++ [.closeBrace])
  | (key, v) :: m :: rest =>
    .string key :: .colon :: (tokens v ++ .comma :: memberTokens (m :: rest))

end

theorem isWritten_itemTokens {items : List Value} (h : ∀ v ∈ items, ∀ t ∈ v.tokens, t.IsWritten) :
    ∀ t ∈ itemTokens items, t.IsWritten := by
  induction items with
  | nil =>
    rw [itemTokens]
    exact List.forall_mem_singleton.mpr (.mark rfl)
  | cons v items ih =>
    obtain ⟨hv, hitems⟩ := List.forall_mem_cons.mp h
    cases items with
    | nil =>
      simp only [itemTokens, List.mem_append, List.mem_singleton]
      rintro t (ht | rfl)
      · exact hv t ht
      · exact .mark rfl
    | cons w items =>
      simp only [itemTokens, List.mem_append, List.mem_cons]
      rintro t (ht | rfl | ht)
      · exact hv t ht
      · exact .mark rfl
      · exact ih hitems t ht

theorem isWritten_memberTokens {members : List (List Piece × Value)}
    (h : ∀ m ∈ members, (∃ name, Spells m.1 name) ∧ ∀ t ∈ m.2.tokens, t.IsWritten) :
    ∀ t ∈ memberTokens members, t.IsWritten := by
  induction members with
  | nil =>
    rw [memberTokens]
    exact List.forall_mem_singleton.mpr (.mark rfl)
  | cons m members ih =>
    obtain ⟨⟨⟨name, hname⟩, hv⟩, hmembers⟩ := List.forall_mem_cons.mp h
    cases members with
    | nil =>
      simp only [memberTokens, List.mem_append, List.mem_cons, List.not_mem_nil, or_false]
      rintro t (rfl | rfl | ht | rfl)
      · exact .string hname
      · exact .mark rfl
      · exact hv t ht
      · exact .mark rfl
    | cons next members =>
      simp only [memberTokens, List.mem_append, List.mem_cons]
      rintro t (rfl | rfl | ht | rfl | ht)
      · exact .string hname
      · exact .mark rfl
      · exact hv t ht
      · exact .mark rfl
      · exact ih hmembers t ht

/-- The tokens begin with a value, and `rest` is left. -/
def Reads (tokens : List Token) (v : Value) (rest : List Token) : Prop :=
  ∃ smaller, read? tokens = some (v, ⟨rest, smaller⟩)

/-- The tokens begin with the items of an array and its closing bracket, and `rest` is left. -/
def ReadsItems (tokens : List Token) (items : List Value) (rest : List Token) : Prop :=
  ∃ smaller, readItems? tokens = some (items, ⟨rest, smaller⟩)

/-- The tokens begin with the members of an object and its closing brace, and `rest` is left. -/
def ReadsMembers (tokens : List Token) (members : List (List Piece × Value))
    (rest : List Token) : Prop :=
  ∃ smaller, readMembers? tokens = some (members, ⟨rest, smaller⟩)

theorem reads_word {name : List Char} {v : Value}
    (h : ofName? (name.map .literal) = some v) (rest : List Token) :
    Reads (word name :: rest) v rest := by
  refine ⟨by simp, ?_⟩
  rw [word, read?, h]
  rfl

theorem not_readsItems_closeBracket (tokens : List Token) (items : List Value) (rest : List Token) :
    ¬ReadsItems (.closeBracket :: tokens) items rest := by
  rintro ⟨smaller, h⟩
  simp [readItems?, read?] at h

theorem not_readsMembers_closeBrace (tokens : List Token) (members : List (List Piece × Value))
    (rest : List Token) : ¬ReadsMembers (.closeBrace :: tokens) members rest := by
  rintro ⟨smaller, h⟩
  generalize htokens : Token.closeBrace :: tokens = all at smaller h
  unfold readMembers? at h
  split at h
  · cases htokens
    simp [Token.key?] at h
  · cases h

theorem ReadsItems.reads {tokens rest : List Token} {items : List Value}
    (h : ReadsItems tokens items rest) : Reads (.openBracket :: tokens) (.array items) rest := by
  obtain ⟨smaller, hitems⟩ := h
  refine ⟨by grind, ?_⟩
  rw [read?, hitems]
  · rfl
  · rintro more rfl
    exact not_readsItems_closeBracket more items rest ⟨smaller, hitems⟩

theorem ReadsMembers.reads {tokens rest : List Token} {members : List (List Piece × Value)}
    (h : ReadsMembers tokens members rest) :
    Reads (.openBrace :: tokens) (.object members) rest := by
  obtain ⟨smaller, hmembers⟩ := h
  refine ⟨by grind, ?_⟩
  rw [read?, hmembers]
  · rfl
  · rintro more rfl
    exact not_readsMembers_closeBrace more members rest ⟨smaller, hmembers⟩

theorem Reads.last {tokens rest : List Token} {v : Value}
    (h : Reads tokens v (.closeBracket :: rest)) : ReadsItems tokens [v] rest := by
  obtain ⟨smaller, h⟩ := h
  refine ⟨by grind, ?_⟩
  rw [readItems?, h]

theorem Reads.more {tokens more rest : List Token} {v : Value} {items : List Value}
    (h : Reads tokens v (.comma :: more)) (hmore : ReadsItems more items rest) :
    ReadsItems tokens (v :: items) rest := by
  obtain ⟨smaller, h⟩ := h
  obtain ⟨smallest, hitems⟩ := hmore
  refine ⟨by grind, ?_⟩
  rw [readItems?, h]
  rcases more with _ | ⟨t, more⟩
  · simp [hitems, Left.widen]
  · cases t with
    | closeBracket => exact absurd ⟨smallest, hitems⟩ (not_readsItems_closeBracket _ _ _)
    | _ => simp [hitems, Left.widen]

theorem Reads.lastMember {tokens rest : List Token} (key : List Piece) {v : Value}
    (h : Reads tokens v (.closeBrace :: rest)) :
    ReadsMembers (.string key :: .colon :: tokens) [(key, v)] rest := by
  obtain ⟨smaller, h⟩ := h
  refine ⟨by grind, ?_⟩
  rw [readMembers?, h]
  rfl

theorem Reads.moreMembers {tokens more rest : List Token} (key : List Piece) {v : Value}
    {members : List (List Piece × Value)} (h : Reads tokens v (.comma :: more))
    (hmore : ReadsMembers more members rest) :
    ReadsMembers (.string key :: .colon :: tokens) ((key, v) :: members) rest := by
  obtain ⟨smaller, h⟩ := h
  obtain ⟨smallest, hmembers⟩ := hmore
  refine ⟨by grind, ?_⟩
  rw [readMembers?, h]
  rcases more with _ | ⟨t, more⟩
  · simp [Token.key?, hmembers, Left.widen]
  · cases t with
    | closeBrace => exact absurd ⟨smallest, hmembers⟩ (not_readsMembers_closeBrace _ _ _)
    | _ => simp [Token.key?, hmembers, Left.widen]

mutual

/-- **A value is read back from its tokens**, whatever follows them. -/
theorem reads_tokens : (v : Value) → (rest : List Token) → Reads (v.tokens ++ rest) v rest
  | .null, rest => by
    rw [tokens]
    exact reads_word rfl rest
  | .boolean true, rest => by
    rw [tokens]
    exact reads_word rfl rest
  | .boolean false, rest => by
    rw [tokens]
    exact reads_word rfl rest
  | .string pieces, rest => ⟨by simp [tokens], by simp [tokens, read?]⟩
  | .number numeral, rest => ⟨by simp [tokens], by simp [tokens, read?]⟩
  | .array [], rest => by
    simp only [tokens, itemTokens]
    exact ⟨by grind, by simp [read?]⟩
  | .array (v :: items), rest => by
    rw [tokens]
    exact (readsItems_itemTokens (v :: items) (List.cons_ne_nil v items) rest).reads
  | .object [], rest => by
    simp only [tokens, memberTokens]
    exact ⟨by grind, by simp [read?]⟩
  | .object (m :: members), rest => by
    rw [tokens]
    exact (readsMembers_memberTokens (m :: members) (List.cons_ne_nil m members) rest).reads

theorem readsItems_itemTokens : (items : List Value) → items ≠ [] → (rest : List Token) →
    ReadsItems (itemTokens items ++ rest) items rest
  | [v], _, rest => by
    rw [itemTokens, List.append_assoc]
    exact (reads_tokens v _).last
  | v :: w :: items, _, rest => by
    rw [itemTokens, List.append_assoc]
    exact (reads_tokens v _).more
      (readsItems_itemTokens (w :: items) (List.cons_ne_nil w items) rest)

theorem readsMembers_memberTokens : (members : List (List Piece × Value)) → members ≠ [] →
    (rest : List Token) → ReadsMembers (memberTokens members ++ rest) members rest
  | [(key, v)], _, rest => by
    rw [memberTokens, List.cons_append, List.cons_append, List.append_assoc]
    exact (reads_tokens v _).lastMember key
  | (key, v) :: m :: members, _, rest => by
    rw [memberTokens, List.cons_append, List.cons_append, List.append_assoc]
    exact (reads_tokens v _).moreMembers key
      (readsMembers_memberTokens (m :: members) (List.cons_ne_nil m members) rest)

end

/-- **A value is read back from any text in which it is written.** -/
theorem ofText?_of_laidOut {v : Value} {text : List Char} (h : LaidOut v.tokens text) :
    ofText? text = some v := by
  have hreads : Reads v.tokens v [] := by
    simpa only [List.append_nil] using reads_tokens v []
  obtain ⟨smaller, hread⟩ := hreads
  rw [ofText?, scan?_of_laidOut h]
  dsimp only
  rw [hread]

end Value

end GpuMetrics.Json5
