import GpuMetrics.Json5.Token

/-!
# The values of a JSON5 text

A JSON5 text holds one value: a plain one, an array or an object. One comma may trail the last
entry of an array or an object. The reader takes a value from the front of a list of tokens and
leaves the rest; a text is well formed when its value leaves nothing.
-/

namespace GpuMetrics.Json5

/-- A value as it is written. Strings, keys and numbers are not yet interpreted. -/
inductive Value where
  | null
  | boolean (b : Bool)
  | string (pieces : List Piece)
  | number (numeral : List Char)
  | array (items : List Value)
  | object (members : List (List Piece × Value))

/-- The characters of a name that is written without escapes. -/
def plainName? : List Piece → Option (List Char)
  | [] => some []
  | .literal c :: rest => (plainName? rest).map (c :: ·)
  | _ => none

/-- The value that a name on its own stands for. -/
def Value.ofName? (pieces : List Piece) : Option Value :=
  match plainName? pieces with
  | none => none
  | some word =>
    if word = ['n', 'u', 'l', 'l'] then some .null
    else if word = ['t', 'r', 'u', 'e'] then some (.boolean true)
    else if word = ['f', 'a', 'l', 's', 'e'] then some (.boolean false)
    else if word = infinityWord ∨ word = nanWord then some (.number word)
    else none

/-- What is left of a list of tokens, less than there was. -/
abbrev Left (tokens : List Token) := { rest : List Token // rest.length < tokens.length }

/-- A smaller left-over is a left-over of anything larger. -/
def Left.widen {small large : List Token} (r : Left small) (h : small.length ≤ large.length) :
    Left large :=
  ⟨r.1, Nat.lt_of_lt_of_le r.2 h⟩

/-- The key that a token can be. -/
def Token.key? : Token → Option (List Piece)
  | .string pieces => some pieces
  | .name pieces => some pieces
  | _ => none

mutual

/-- The value at the front of the tokens. -/
def Value.read? : (tokens : List Token) → Option (Value × Left tokens)
  | [] => none
  | .string pieces :: rest => some (.string pieces, ⟨rest, by simp⟩)
  | .number numeral :: rest => some (.number numeral, ⟨rest, by simp⟩)
  | .name pieces :: rest => (Value.ofName? pieces).map fun v => (v, ⟨rest, by simp⟩)
  | .openBracket :: .closeBracket :: rest =>
    some (.array [], ⟨rest, by simp only [List.length_cons]; omega⟩)
  | .openBracket :: rest =>
    (Value.readItems? rest).map fun (items, left) => (.array items, left.widen (by simp))
  | .openBrace :: .closeBrace :: rest =>
    some (.object [], ⟨rest, by simp only [List.length_cons]; omega⟩)
  | .openBrace :: rest =>
    (Value.readMembers? rest).map fun (members, left) => (.object members, left.widen (by simp))
  | _ :: _ => none
termination_by tokens => (tokens.length, 0)

/-- The items of an array from one of them on, up to and with the closing bracket. -/
def Value.readItems? (tokens : List Token) : Option (List Value × Left tokens) :=
  match Value.read? tokens with
  | none => none
  | some (v, ⟨left, smaller⟩) =>
    match left with
    | .closeBracket :: rest => some ([v], ⟨rest, by simp at smaller; omega⟩)
    | .comma :: .closeBracket :: rest => some ([v], ⟨rest, by simp at smaller; omega⟩)
    | .comma :: rest =>
      (Value.readItems? rest).map fun (items, left) =>
        (v :: items, left.widen (by simp at smaller; omega))
    | _ => none
termination_by (tokens.length, 1)
decreasing_by
  · exact Prod.Lex.right _ (by omega)
  · exact Prod.Lex.left _ _ (by simp only [List.length_cons] at smaller; omega)

/-- The members of an object from one of them on, up to and with the closing brace. -/
def Value.readMembers? (tokens : List Token) : Option (List (List Piece × Value) × Left tokens) :=
  match tokens with
  | key :: .colon :: rest =>
    match key.key?, Value.read? rest with
    | some pieces, some (v, ⟨left, smaller⟩) =>
      match left with
      | .closeBrace :: rest => some ([(pieces, v)], ⟨rest, by simp at smaller ⊢; omega⟩)
      | .comma :: .closeBrace :: rest => some ([(pieces, v)], ⟨rest, by simp at smaller ⊢; omega⟩)
      | .comma :: rest =>
        (Value.readMembers? rest).map fun (members, left) =>
          ((pieces, v) :: members, left.widen (by simp at smaller ⊢; omega))
      | _ => none
    | _, _ => none
  | _ => none
termination_by (tokens.length, 2)
decreasing_by
  · exact Prod.Lex.left _ _ (by simp only [List.length_cons]; omega)
  · exact Prod.Lex.left _ _ (by simp only [List.length_cons] at smaller ⊢; omega)

end

/-- The value that a text holds, if it is well formed. -/
def Value.ofText? (text : List Char) : Option Value :=
  match Token.scan? text with
  | none => none
  | some tokens =>
    match Value.read? tokens with
    | some (v, ⟨[], _⟩) => some v
    | _ => none

end GpuMetrics.Json5
