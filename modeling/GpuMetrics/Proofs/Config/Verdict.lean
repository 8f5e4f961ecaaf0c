import GpuMetrics.Proofs.Config.Override
import GpuMetrics.Proofs.Metric.Name
import GpuMetrics.Proofs.Text.Trim

/-!
# What is checked of a configuration, and when

A configuration is valid when six things hold of it (`GpuMetrics.Config.IsValid`), and the check
reports the first that does not.

A configuration that comes from a file is checked twice: as the file has it, and again once the
options have replaced parts of it. So what starting with a file comes to is the first thing wrong
before the options or, failing that, the first thing wrong behind them
(`GpuMetrics.Exporter.configured?_of_holds`). What the options replace is out of sight for the
second check but not for the first. Two files that the options make alike are treated alike as long
as the first check cannot tell them apart (`GpuMetrics.Exporter.configured?_congr`), and that
condition cannot be dropped (`GpuMetrics.Exporter.configured?_not_congr`).
-/

namespace GpuMetrics

open Backend Collector Exporter Json5

namespace Config

/-! ### What a valid configuration is -/

/-- A configuration that the program can rely on. -/
structure IsValid (c : Config) : Prop where
  /-- The address can be read. -/
  listen : (Net.SocketAddress.ofText? c.endpoint.listen).isSome = true
  path_absolute : c.endpoint.path.toList.head? = some '/'
  /-- The path is not one that the server answers itself. -/
  path_free : c.endpoint.path ∉ reservedPaths
  ns : Metric.IsNamespace c.endpoint.ns
  command : Text.trim c.gpu.smiCommand ≠ ""
  consistent : c.collectors.IsConsistent

/-- One check among others. -/
theorem ite_some_eq_none_iff {α : Type} {p : Prop} [Decidable p] {a : α} {rest : Option α} :
    (if p then some a else rest) = none ↔ ¬p ∧ rest = none := by
  by_cases h : p <;> simp [h]

/-- **The check finds nothing wrong just with valid configurations.** -/
theorem problem?_eq_none_iff {c : Config} : c.problem? = none ↔ c.IsValid := by
  simp only [problem?, ite_some_eq_none_iff, and_true]
  constructor
  · rintro ⟨hlisten, hpath, hfree, hns, hcommand, hconflicts⟩
    refine ⟨?_, not_not.mp hpath, by simpa using hfree, ?_, hcommand, ?_⟩
    · simpa [Option.isSome_iff_ne_none] using hlisten
    · exact (Classical.em _).imp_right fun hempty => not_not.mp fun h => hns ⟨hempty, h⟩
    · exact Selection.conflicts_eq_nil_iff.mp (not_not.mp hconflicts)
  · rintro ⟨hlisten, hpath, hfree, hns, hcommand, hconsistent⟩
    refine ⟨?_, not_not.mpr hpath, by simpa using hfree, ?_, hcommand, ?_⟩
    · simpa [Option.isSome_iff_ne_none] using hlisten
    · rintro ⟨hempty, h⟩
      exact h (hns.resolve_left hempty)
    · exact not_not.mpr (Selection.conflicts_eq_nil_iff.mpr hconsistent)

/-- **The configurations that are accepted are the valid ones.** -/
theorem validate_eq_ok_iff {c : Config} : c.validate = .ok c ↔ c.IsValid := by
  rw [validate, ← problem?_eq_none_iff]
  cases c.problem? <;> simp

/-- Two configurations of one path, one namespace, one device section and one set of conflicts have
one verdict, if the addresses do not tell them apart. -/
theorem problem?_congr {c c' : Config} (hpath : c.endpoint.path = c'.endpoint.path)
    (hns : c.endpoint.ns = c'.endpoint.ns) (hgpu : c.gpu = c'.gpu)
    (hlisten : c.endpoint.listen = c'.endpoint.listen ∨
      (Net.SocketAddress.ofText? c.endpoint.listen).isSome = true ∧
        (Net.SocketAddress.ofText? c'.endpoint.listen).isSome = true)
    (hconflicts : c.collectors.conflicts = c'.collectors.conflicts) :
    c.problem? = c'.problem? := by
  simp only [problem?, hpath, hns, hgpu, hconflicts]
  rcases hlisten with hlisten | ⟨hlisten, hlisten'⟩
  · rw [hlisten]
  · rw [Option.isNone_eq_false_iff.mpr hlisten, Option.isNone_eq_false_iff.mpr hlisten']
    rfl

/-! ### Texts and files -/

/-- A text is read for what it describes, and that is checked. -/
theorem ofText?_eq_ok_iff {text : String} {c : Config} :
    ofText? text = .ok c ↔ read? text = .ok c ∧ c.IsValid := by
  rw [ofText?, ← problem?_eq_none_iff]
  cases read? text with
  | error e => simp
  | ok c' =>
    simp only [validate, Except.ok.injEq]
    cases hproblem : c'.problem? with
    | some cause =>
      simp only [reduceCtorEq, false_iff]
      rintro ⟨rfl, hnone⟩
      rw [hproblem] at hnone
      cases hnone
    | none =>
      simp only [Except.ok.injEq]
      exact ⟨fun h => ⟨h, h ▸ hproblem⟩, And.left⟩

/-- A file that holds a configuration, valid or not. -/
def Holds (file : Except SystemError (List UInt8)) (c : Config) : Prop :=
  ∃ bytes text, file = .ok bytes ∧ Text.decodeUtf8? bytes = some text ∧ read? text = .ok c

/-- A file is read for what it holds, and that is checked. -/
theorem ofFile?_of_holds {file : Except SystemError (List UInt8)} {c : Config}
    (h : Holds file c) :
    ofFile? file = match c.problem? with
      | some cause => .error (.invalid cause)
      | none => .ok c := by
  obtain ⟨bytes, text, rfl, htext, hread⟩ := h
  simp only [ofFile?, htext, ofText?, hread, validate]
  cases c.problem? <;> rfl

end Config

namespace Exporter

/-- **What starting with a file comes to**: the first thing wrong with what the file holds counts
before the first thing wrong with what the options leave of it. -/
theorem configured?_of_holds {contents : String → Except SystemError (List UInt8)} {o : Options}
    {path : String} (hpath : o.config = some path) {c : Config}
    (h : Config.Holds (contents path) c) :
    configured? contents o = match c.problem?.or (c.override o).problem? with
      | some cause => .error (.invalid cause)
      | none => .ok (c.override o) := by
  simp only [configured?, hpath, Config.ofFile?_of_holds h]
  cases c.problem? with
  | some cause => rfl
  | none =>
    simp only [Config.validate, Option.none_or]
    cases (c.override o).problem? <;> rfl

/-! ### A text of one field -/

/-- The tokens of a text that gives one field of one section, all three of them in quotes. -/
def fieldTokens (part field content : String) : List Token :=
  [.openBrace, .string (part.toList.map .literal), .colon, .openBrace,
   .string (field.toList.map .literal), .colon, .string (content.toList.map .literal), .closeBrace,
   .closeBrace]

/-- What a text of one field describes is what its value is decoded to. -/
theorem read?_of_field {text : String} (part field content : String) {c : Config}
    (hscan : Token.scan? text.toList = some (fieldTokens part field content))
    (hdecode : Config.decode? (.object [(part.toList.map .literal,
      .object [(field.toList.map .literal, .string (content.toList.map .literal))])]) = .ok c) :
    Config.read? text = .ok c := by
  have hvalue : Value.ofText? text.toList = some (.object [(part.toList.map .literal,
      .object [(field.toList.map .literal, .string (content.toList.map .literal))])]) := by
    simp [Value.ofText?, hscan, fieldTokens, Value.read?, Value.readMembers?, Token.key?,
      Left.widen]
  simp only [Config.read?, hvalue, hdecode]

/-- A machine on which every file holds the text. -/
def everyFile (text : String) : String → Except SystemError (List UInt8) :=
  fun _ => .ok (Text.encode text.toList)

theorem holds_everyFile {text : String} {c : Config} (h : Config.read? text = .ok c)
    (path : String) : Config.Holds (everyFile text path) c :=
  ⟨_, text, rfl, by rw [Text.decodeUtf8?_encode, String.ofList_toList], h⟩

/-- A file with an address that cannot be read. -/
def badListen : String := "\x7b'exporter':\x7b'listen':'bad'\x7d\x7d"

/-- A file with an address that can. -/
def goodListen : String := "\x7b'exporter':\x7b'listen':'0.0.0.0:1'\x7d\x7d"

/-- A file that leaves the address to the default and gives a log level. -/
def debugLevel : String := "\x7b'logging':\x7b'level':'debug'\x7d\x7d"

theorem read?_badListen : Config.read? badListen = .ok { endpoint := { listen := "bad" } } :=
  read?_of_field "exporter" "listen" "bad" (by decide +kernel) rfl

theorem read?_goodListen :
    Config.read? goodListen = .ok { endpoint := { listen := "0.0.0.0:1" } } :=
  read?_of_field "exporter" "listen" "0.0.0.0:1" (by decide +kernel) rfl

theorem read?_debugLevel :
    Config.read? debugLevel = .ok { logging := { level := "debug" } } :=
  read?_of_field "logging" "level" "debug" (by decide +kernel) rfl

/-- Options that name a file, an address and a log level. -/
def replacing : Options where
  config := some "exporter.json5"
  listen := some "127.0.0.1:0"
  logLevel := some "info"

/-! ### Two files under the same options -/

/-- **Files that the options make alike are treated alike**, where what the options replace is fit
to be used: the two files may give different addresses if both can be read, and different lists of
collectors if the same names are on both lists of the one and of the other. -/
theorem configured?_congr {contents contents' : String → Except SystemError (List UInt8)}
    {o : Options} {path : String} (hpath : o.config = some path) {c c' : Config}
    (hc : Config.Holds (contents path) c) (hc' : Config.Holds (contents' path) c')
    (hsame : c.override o = c'.override o)
    (hlisten : c.endpoint.listen = c'.endpoint.listen ∨
      (Net.SocketAddress.ofText? c.endpoint.listen).isSome = true ∧
        (Net.SocketAddress.ofText? c'.endpoint.listen).isSome = true)
    (hconflicts : c.collectors.conflicts = c'.collectors.conflicts) :
    configured? contents o = configured? contents' o := by
  -- the options leave the rest of what is checked as it is
  have hproblem : c.problem? = c'.problem? :=
    Config.problem?_congr (congrArg (·.endpoint.path) hsame) (congrArg (·.endpoint.ns) hsame)
      (congrArg (·.gpu) hsame) hlisten hconflicts
  rw [configured?_of_holds hpath hc, configured?_of_holds hpath hc', hproblem, hsame]

/-- Two files with nothing in common that the options make alike: both are accepted. -/
theorem configured?_congr_replacing :
    configured? (everyFile goodListen) replacing = configured? (everyFile debugLevel) replacing ∧
      configured? (everyFile debugLevel) replacing
        = .ok { endpoint := { listen := "127.0.0.1:0" } } := by
  have hfile : replacing.config = some "exporter.json5" := rfl
  have hgood := holds_everyFile read?_goodListen "exporter.json5"
  have hdebug := holds_everyFile read?_debugLevel "exporter.json5"
  refine ⟨configured?_congr hfile hgood hdebug rfl ?_ rfl, ?_⟩
  · exact Or.inr ⟨by decide +kernel, by decide +kernel⟩
  · have hproblem : Option.or (Config.problem? { logging := { level := "debug" } })
        (Config.override { logging := { level := "debug" } } replacing).problem? = none := by
      decide +kernel
    rw [configured?_of_holds hfile hdebug, hproblem]
    rfl

/-- **What the options replace can keep the program from starting**: an address that cannot be read
does so, although the options give another one. -/
theorem configured?_not_congr :
    ¬∀ (contents contents' : String → Except SystemError (List UInt8)) (o : Options)
      (path : String) (c c' : Config), o.config = some path → Config.Holds (contents path) c →
      Config.Holds (contents' path) c' → c.override o = c'.override o →
      configured? contents o = configured? contents' o := by
  intro hlaw
  have hfile : replacing.config = some "exporter.json5" := rfl
  have hbad := holds_everyFile read?_badListen "exporter.json5"
  have hgood := holds_everyFile read?_goodListen "exporter.json5"
  have halike := hlaw _ _ replacing _ _ _ hfile hbad hgood rfl
  have hrefused : Config.problem? { endpoint := { listen := "bad" } }
      = some (.listenAddress "bad") := by
    decide +kernel
  have haccepted : Option.or (Config.problem? { endpoint := { listen := "0.0.0.0:1" } })
      (Config.override { endpoint := { listen := "0.0.0.0:1" } } replacing).problem? = none := by
    decide +kernel
  rw [configured?_of_holds hfile hbad, configured?_of_holds hfile hgood, hrefused, haccepted]
    at halike
  cases halike

end Exporter

end GpuMetrics
