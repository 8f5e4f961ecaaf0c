import GpuMetrics.Json5.Scalar

/-!
# Decoding values

A value is decoded towards an expected shape: a string, a list, a choice among words, or a record
with named fields. Decoding walks the text in document order and reports the first thing that is
wrong. A record is an object, whose unknown members are ignored but must still make sense, or an
array of the fields in their order, whose further items are not even looked at; fields that are
not given keep their defaults.
-/

namespace GpuMetrics.Json5

namespace Value

/-- What a value is, for a report that it is not what was expected. A string or a number that
makes no sense is reported as that instead. -/
def found? : Value → Except DecodeError Found
  | .null => .ok .null
  | .boolean b => .ok (.boolean b)
  | .string pieces => (stringOf? pieces).map .string
  | .number numeral =>
    (Number.ofNumeral? numeral).map fun
      | .integer i => .integer i
      | .float x => .float x
  | .array _ => .ok .sequence
  | .object _ => .ok .map

/-- The report that a value is not what was expected. -/
def mismatch {α : Type} (v : Value) (expected : String) : Except DecodeError α :=
  match v.found? with
  | .error e => .error e
  | .ok found => .error (.wrongKind found expected)

mutual

/-- Walks a value that is ignored. Every string, key and number in it must make sense. -/
def skip? : Value → Except DecodeError Unit
  | .null => .ok ()
  | .boolean _ => .ok ()
  | .string pieces => (stringOf? pieces).map fun _ => ()
  | .number numeral => (Number.ofNumeral? numeral).map fun _ => ()
  | .array items => skipItems? items
  | .object members => skipMembers? members

/-- Walks the items of an array that is ignored. -/
def skipItems? : List Value → Except DecodeError Unit
  | [] => .ok ()
  | v :: rest =>
    match skip? v with
    | .error e => .error e
    | .ok () => skipItems? rest

/-- Walks the members of an object that is ignored. -/
def skipMembers? : List (List Piece × Value) → Except DecodeError Unit
  | [] => .ok ()
  | (key, v) :: rest =>
    match stringOf? key with
    | .error e => .error e
    | .ok _ =>
      match skip? v with
      | .error e => .error e
      | .ok () => skipMembers? rest

end

end Value

/-- How a value of type `α` is decoded. -/
abbrev Decoder (α : Type) := Value → Except DecodeError α

/-- Decodes a string. -/
def Decoder.string : Decoder String
  | .string pieces => stringOf? pieces
  | v => v.mismatch "a string"

/-- Decodes a list of strings. -/
def Decoder.strings : Decoder (List String)
  | .array items => items.mapM Decoder.string
  | v => v.mismatch "a sequence"

/-- Decodes one of the given words, as a string or as the first key of an object. -/
def Decoder.choice {α : Type} (choices : List (String × α)) : Decoder α := fun v =>
  let pick (pieces : List Piece) : Except DecodeError α :=
    match stringOf? pieces with
    | .error e => .error e
    | .ok word =>
      match choices.lookup word with
      | some a => .ok a
      | none => .error (.unknownChoice word (choices.map (·.1)))
  match v with
  | .string pieces => pick pieces
  | .object ((key, _) :: _) => pick key
  | .object [] => .error .emptyChoice
  | _ => .error .noChoice

/-- A field of a record `σ`: its name, and how a value for it is put into the record. -/
structure RecordField (σ : Type) where
  name : String
  put : Value → σ → Except DecodeError σ

/-- The field that holds what a decoder makes of its value. -/
def RecordField.of {σ α : Type} (name : String) (decoder : Decoder α) (set : α → σ → σ) :
    RecordField σ where
  name := name
  put v s := (decoder v).map (set · s)

/-- Puts the items of an array into the fields in order. -/
def putItems {σ : Type} : List (RecordField σ) → List Value → σ → Except DecodeError σ
  | field :: fields, v :: rest, s =>
    match field.put v s with
    | .error e => .error e
    | .ok next => putItems fields rest next
  | _, _, s => .ok s

/-- Puts the members of an object into the fields of their names, `seen` being the names that were
met before. -/
def putMembers {σ : Type} (fields : List (RecordField σ)) :
    List (List Piece × Value) → List String → σ → Except DecodeError σ
  | [], _, s => .ok s
  | (key, v) :: rest, seen, s =>
    match stringOf? key with
    | .error e => .error e
    | .ok name =>
      match fields.find? (·.name = name) with
      | none =>
        match v.skip? with
        | .error e => .error e
        | .ok () => putMembers fields rest seen s
      | some field =>
        if seen.contains name then .error (.duplicateField name)
        else
          match field.put v s with
          | .error e => .error e
          | .ok next => putMembers fields rest (name :: seen) next

/-- Decodes a record, starting from its defaults. -/
def Decoder.record {σ : Type} (what : String) (fields : List (RecordField σ)) (defaults : σ) :
    Decoder σ
  | .array items => putItems fields items defaults
  | .object members => putMembers fields members [] defaults
  | v => v.mismatch ("struct " ++ what)

end GpuMetrics.Json5
