import GpuMetrics.Http.Path
import Mathlib.Data.List.Basic

/-!
# How path patterns are written

A path is read as a pattern from left to right, with some memory of what was just read. Here is
what it takes for a text to be a pattern, part by part and with no such memory
(`GpuMetrics.Http.Pattern.Writes`): the reader finds exactly these patterns
(`GpuMetrics.Http.Pattern.ofText?_eq_some_iff`).

Every pattern matches its own text, wildcards standing for their own names
(`GpuMetrics.Http.Pattern.accepts_of_writes`), and a pattern without wildcards matches nothing
else (`GpuMetrics.Http.Pattern.accepts_iff_of_isStatic`).
-/

namespace GpuMetrics.Http

namespace Pattern

/-- The name of a wildcard. -/
structure IsName (name : List Char) : Prop where
  ne_nil : name ≠ []
  plain : ∀ c ∈ name, c ≠ '/' ∧ isWildcard c = false

/-- The parts of a pattern and the text that they are written as, `last` being the character in
front of it. -/
inductive Writes : Char → Pattern → List Char → Prop where
  | nil {last : Char} : Writes last [] []
  | literal {last c : Char} (plain : isWildcard c = false) {parts : Pattern} {text : List Char}
      (rest : Writes c parts text) : Writes last (.literal c :: parts) (c :: text)
  /-- A parameter ends with its segment. -/
  | parameter {last : Char} {name : List Char} (isName : IsName name) {parts : Pattern}
      {text : List Char} (ends : ∀ c ∈ text.head?, c = '/') (rest : Writes ':' parts text) :
      Writes last (.parameter :: parts) (':' :: (name ++ text))
  /-- A catch-all is all of the last segment. -/
  | catchAll {name : List Char} (isName : IsName name) : Writes '/' [.catchAll] ('*' :: name)

/-! ### Reading finds what is written -/

/-- Behind its colon, the name of a parameter is read up to the end of its segment. -/
theorem readParts?_name {name : List Char} (hname : ∀ c ∈ name, c ≠ '/' ∧ isWildcard c = false)
    {named : Bool} (hnamed : named = true ∨ name ≠ []) (last : Char) {text : List Char}
    (hends : ∀ c ∈ text.head?, c = '/') :
    readParts? last (some named) (name ++ text) = readParts? ':' none text := by
  induction name generalizing named last with
  | nil =>
    obtain rfl : named = true := by simpa using hnamed
    cases text with
    | nil => rfl
    | cons c text =>
      obtain rfl : c = '/' := by simpa using hends
      simp [readParts?]
  | cons c name ih =>
    obtain ⟨⟨hslash, hwild⟩, hrest⟩ := List.forall_mem_cons.mp hname
    rw [List.cons_append, readParts?]
    simp only [hslash, hwild, if_false, Bool.false_eq_true]
    exact ih hrest (Or.inl rfl) c

/-- **What is written is read.** -/
theorem readParts?_of_writes {last : Char} {parts : Pattern} {text : List Char}
    (h : Writes last parts text) : readParts? last none text = some parts := by
  induction h with
  | nil => rfl
  | @literal last c plain parts text _ ih =>
    simp only [isWildcard, Bool.or_eq_false_iff, beq_eq_false_iff_ne] at plain
    simp [readParts?, plain, ih]
  | @parameter last name isName parts text ends _ ih =>
    rw [readParts?]
    simp only [if_true, readParts?_name isName.plain (Or.inr isName.ne_nil) ':' ends, ih]
    rfl
  | @catchAll name isName =>
    have hall : name.all (fun d => d != '/' && !isWildcard d) = true := by
      simpa using isName.plain
    simp [readParts?, isName.ne_nil, hall]

/-- What is left of a parameter's name, and what follows it. -/
structure NameThen (named : Bool) (parts : Pattern) (name text : List Char) : Prop where
  plain : ∀ c ∈ name, c ≠ '/' ∧ isWildcard c = false
  named_or : named = true ∨ name ≠ []
  ends : ∀ c ∈ text.head?, c = '/'
  rest : Writes ':' parts text

/-- What a character may be outside of a name. -/
theorem readParts?_plain_cons {last c : Char} {text : List Char} {parts : Pattern}
    (h : readParts? last none (c :: text) = some parts) :
    (c = ':' ∧ ∃ rest, parts = .parameter :: rest ∧
      readParts? ':' (some false) text = some rest) ∨
    (c = '*' ∧ last = '/' ∧ IsName text ∧ parts = [.catchAll]) ∨
    (isWildcard c = false ∧ ∃ rest, parts = .literal c :: rest ∧
      readParts? c none text = some rest) := by
  rw [readParts?] at h
  split at h
  · next hcolon =>
    subst hcolon
    obtain ⟨rest, hrest, rfl⟩ := Option.map_eq_some_iff.mp h
    exact Or.inl ⟨rfl, rest, rfl, hrest⟩
  · next hcolon =>
    split at h
    · next hstar =>
      split at h
      · next hall =>
        obtain ⟨hlast, hne, hall⟩ := hall
        cases h
        exact Or.inr (Or.inl ⟨hstar, hlast, ⟨hne, by simpa using hall⟩, rfl⟩)
      · cases h
    · next hstar =>
      obtain ⟨rest, hrest, rfl⟩ := Option.map_eq_some_iff.mp h
      exact Or.inr (Or.inr ⟨by simp [isWildcard, hcolon, hstar], rest, rfl, hrest⟩)

/-- What a character may be inside a name. -/
theorem readParts?_name_cons {last c : Char} {named : Bool} {text : List Char} {parts : Pattern}
    (h : readParts? last (some named) (c :: text) = some parts) :
    (c = '/' ∧ named = true ∧ ∃ rest, parts = .literal '/' :: rest ∧
      readParts? '/' none text = some rest) ∨
    (c ≠ '/' ∧ isWildcard c = false ∧ readParts? c (some true) text = some parts) := by
  rw [readParts?] at h
  split at h
  · next hslash =>
    subst hslash
    split at h
    · next hnamed =>
      obtain ⟨rest, hrest, rfl⟩ := Option.map_eq_some_iff.mp h
      exact Or.inl ⟨rfl, hnamed, rest, rfl, hrest⟩
    · cases h
  · next hslash =>
    split at h
    · cases h
    · next hwild => exact Or.inr ⟨hslash, by simpa using hwild, h⟩

/-- **What is read was written**, from the outside of a name and from the inside of one. -/
theorem writes_of_readParts? {text : List Char} :
    (∀ last parts, readParts? last none text = some parts → Writes last parts text) ∧
    (∀ last named parts, readParts? last (some named) text = some parts →
      ∃ name rest, text = name ++ rest ∧ NameThen named parts name rest) := by
  induction text with
  | nil =>
    refine ⟨fun last parts h => ?_, fun last named parts h => ?_⟩
    · cases h
      exact .nil
    · rw [readParts?] at h
      split at h
      · cases h
      · next hnamed =>
        cases h
        exact ⟨[], [], rfl, by simp, Or.inl (by simpa using hnamed), by simp, .nil⟩
  | cons c text ih =>
    obtain ⟨ihplain, ihname⟩ := ih
    refine ⟨fun last parts h => ?_, fun last named parts h => ?_⟩
    · obtain ⟨rfl, parts, rfl, hparts⟩ | ⟨rfl, rfl, hname, rfl⟩ | ⟨hwild, parts, rfl, hparts⟩ :=
        readParts?_plain_cons h
      · obtain ⟨name, rest, rfl, hthen⟩ := ihname _ _ _ hparts
        have hname : IsName name := ⟨hthen.named_or.resolve_left (by decide), hthen.plain⟩
        exact .parameter hname hthen.ends hthen.rest
      · exact .catchAll hname
      · exact .literal hwild (ihplain _ _ hparts)
    · obtain ⟨rfl, hnamed, parts, rfl, hparts⟩ | ⟨hslash, hwild, hparts⟩ := readParts?_name_cons h
      · exact ⟨[], '/' :: text, rfl, by simp, Or.inl hnamed, by simp,
          .literal (by decide) (ihplain _ _ hparts)⟩
      · obtain ⟨name, rest, rfl, hthen⟩ := ihname _ _ _ hparts
        have hplain := List.forall_mem_cons.mpr ⟨⟨hslash, hwild⟩, hthen.plain⟩
        exact ⟨c :: name, rest, rfl, hplain, Or.inr (List.cons_ne_nil c name), hthen.ends,
          hthen.rest⟩

theorem readParts?_eq_some_iff {last : Char} {parts : Pattern} {text : List Char} :
    readParts? last none text = some parts ↔ Writes last parts text :=
  ⟨writes_of_readParts?.1 last parts, readParts?_of_writes⟩

/-- **The patterns that there are**: a slash, followed by parts of which not too many are
parameters. -/
theorem ofText?_eq_some_iff {path : List Char} {p : Pattern} :
    ofText? path = some p ↔
      ∃ text parts, path = '/' :: text ∧ p = .literal '/' :: parts ∧ Writes '/' parts text ∧
        parts.count .parameter ≤ maxParameters := by
  constructor
  · intro h
    rw [ofText?.eq_def] at h
    split at h
    · next text =>
      split at h
      · next parts hparts =>
        split at h
        · cases h
        · next hcount =>
          cases h
          exact ⟨text, parts, rfl, rfl, readParts?_eq_some_iff.mp hparts, Nat.le_of_not_lt hcount⟩
      · cases h
    · cases h
  · rintro ⟨text, parts, rfl, rfl, hwrites, hcount⟩
    rw [ofText?, readParts?_of_writes hwrites]
    simp [Nat.not_lt.mpr hcount]

/-- A path that is a pattern. -/
def IsPattern (path : List Char) : Prop :=
  ∃ text parts, path = '/' :: text ∧ Writes '/' parts text ∧ parts.count .parameter ≤ maxParameters

theorem isPattern_iff {path : List Char} : IsPattern path ↔ ∃ p, ofText? path = some p := by
  constructor
  · rintro ⟨text, parts, hpath, hwrites, hcount⟩
    exact ⟨_, ofText?_eq_some_iff.mpr ⟨text, parts, hpath, rfl, hwrites, hcount⟩⟩
  · rintro ⟨p, hp⟩
    obtain ⟨text, parts, hpath, -, hwrites, hcount⟩ := ofText?_eq_some_iff.mp hp
    exact ⟨text, parts, hpath, hwrites, hcount⟩

/-! ### What patterns match -/

/-- **A pattern matches its own text.** -/
theorem accepts_of_writes {last : Char} {parts : Pattern} {text : List Char}
    (h : Writes last parts text) : parts.accepts text = true := by
  induction h with
  | nil => rfl
  | literal _ _ ih => simpa [accepts] using ih
  | @parameter last name isName parts text ends _ ih =>
    -- the segment that the parameter takes is its own colon and name
    have htake : (':' :: (name ++ text)).takeWhile (· != '/') ≠ [] := by simp
    have hdrop : (':' :: (name ++ text)).dropWhile (· != '/') = text := by
      have hname : ∀ c ∈ ':' :: name, (c != '/') = true := by
        simpa using fun c hc => (isName.plain c hc).1
      rw [← List.cons_append, List.dropWhile_append_of_pos hname]
      cases text with
      | nil => rfl
      | cons c text =>
        obtain rfl : c = '/' := by simpa using ends
        simp
    rw [accepts, hdrop, ih, List.isEmpty_eq_false_iff.mpr htake]
    rfl
  | catchAll _ => rfl

/-- **A pattern without wildcards matches nothing else.** -/
theorem accepts_iff_of_isStatic {last : Char} {parts : Pattern} {text : List Char}
    (h : Writes last parts text) (hstatic : parts.isStatic = true) {path : List Char} :
    parts.accepts path = true ↔ path = text := by
  induction h generalizing path with
  | nil => simp [accepts]
  | @literal last c plain parts text _ ih =>
    have hparts : parts.isStatic = true := by simpa [isStatic] using hstatic
    cases path with
    | nil => simp [accepts]
    | cons d path =>
      simp only [accepts, Bool.and_eq_true, beq_iff_eq, ih hparts, List.cons.injEq]
      exact and_congr_left' eq_comm
  | parameter => simp [isStatic] at hstatic
  | catchAll => simp [isStatic] at hstatic

/-- A text without wildcards has none in its pattern. -/
theorem isStatic_of_writes {last : Char} {parts : Pattern} {text : List Char}
    (h : Writes last parts text) (hplain : ∀ c ∈ text, isWildcard c = false) :
    parts.isStatic = true := by
  induction h with
  | nil => rfl
  | literal _ _ ih => simpa [isStatic] using ih fun c hc => hplain c (List.mem_cons_of_mem _ hc)
  | parameter => exact absurd (hplain ':' (List.mem_cons_self ..)) (by decide)
  | catchAll => exact absurd (hplain '*' (List.mem_cons_self ..)) (by decide)

/-- A text without wildcards is a pattern of its characters. -/
theorem writes_map_literal {text : List Char} (h : ∀ c ∈ text, isWildcard c = false) (last : Char) :
    Writes last (text.map .literal) text := by
  induction text generalizing last with
  | nil => exact .nil
  | cons c text ih =>
    obtain ⟨hc, htext⟩ := List.forall_mem_cons.mp h
    exact .literal hc (ih htext c)

theorem accepts_of_ofText? {path : List Char} {p : Pattern} (h : ofText? path = some p) :
    p.accepts path = true := by
  obtain ⟨text, parts, rfl, rfl, hwrites, -⟩ := ofText?_eq_some_iff.mp h
  simpa [accepts] using accepts_of_writes hwrites

theorem accepts_iff_of_ofText? {path : List Char} {p : Pattern} (h : ofText? path = some p)
    (hplain : ∀ c ∈ path, isWildcard c = false) {path' : List Char} :
    p.accepts path' = true ↔ path' = path := by
  obtain ⟨text, parts, rfl, rfl, hwrites, -⟩ := ofText?_eq_some_iff.mp h
  have hwhole : Writes '/' (.literal '/' :: parts) ('/' :: text) := .literal (by decide) hwrites
  exact accepts_iff_of_isStatic hwhole (isStatic_of_writes hwhole hplain)

end Pattern

end GpuMetrics.Http
