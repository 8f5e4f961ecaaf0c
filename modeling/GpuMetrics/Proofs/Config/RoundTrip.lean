import GpuMetrics.Config.Decode
import GpuMetrics.Proofs.Json5.Record

/-!
# Writing a configuration

A configuration is written as an object of up to four sections, each an object of its fields
(`GpuMetrics.Config.Writes`). Sections and fields may be left out where they are at their
defaults, stand in any order, and have strings of unknown names among them. Every valid
configuration is read back from every such document, however it is laid out
(`GpuMetrics.Config.ofText?_of_writes`).
-/

namespace GpuMetrics

open Json5 Collector

/-! ### The slots of the sections -/

/-- The slots of the endpoint section. -/
def Endpoint.slots : List (Slot Endpoint) :=
  [⟨"listen", .string, Endpoint.listen, fun a e => { e with listen := a }, fun _ _ => rfl⟩,
   ⟨"path", .string, Endpoint.path, fun a e => { e with path := a }, fun _ _ => rfl⟩,
   ⟨"namespace", .string, Endpoint.ns, fun a e => { e with ns := a }, fun _ _ => rfl⟩]

theorem Endpoint.makeUp : MakeUp Endpoint.slots where
  nodup := by decide
  get_set_of_ne := by simp [slots]
  ext r r' h := by
    cases r
    cases r'
    simpa [slots] using h

/-- The slots of the collector section. -/
def Collector.Selection.slots : List (Slot Selection) :=
  [⟨"enabled", .strings, Selection.enabled, fun a s => { s with enabled := a }, fun _ _ => rfl⟩,
   ⟨"disabled", .strings, Selection.disabled, fun a s => { s with disabled := a }, fun _ _ => rfl⟩]

theorem Collector.Selection.makeUp : MakeUp Selection.slots where
  nodup := by decide
  get_set_of_ne := by simp [slots]
  ext r r' h := by
    cases r
    cases r'
    simpa [slots] using h

/-- The words in which a device source is written. -/
def Collector.BackendKind.written : List (String × BackendKind) :=
  [("nvml", .nvml), ("nvidia-smi", .nvidiaSmi)]

theorem Collector.BackendKind.exists_word (b : BackendKind) :
    ∃ word, BackendKind.written.lookup word = some b := by
  cases b with
  | nvml => exact ⟨"nvml", by decide⟩
  | nvidiaSmi => exact ⟨"nvidia-smi", by decide⟩

/-- The slots of the device section. -/
def Collector.GpuSettings.slots : List (Slot GpuSettings) :=
  [⟨"backend", .choice BackendKind.written BackendKind.exists_word, GpuSettings.backend,
      fun a g => { g with backend := a }, fun _ _ => rfl⟩,
   ⟨"smi_command", .string, GpuSettings.smiCommand,
      fun a g => { g with smiCommand := a }, fun _ _ => rfl⟩]

theorem Collector.GpuSettings.makeUp : MakeUp GpuSettings.slots where
  nodup := by decide
  get_set_of_ne := by simp [slots]
  ext r r' h := by
    cases r
    cases r'
    simpa [slots] using h

/-- The words in which a form of log lines is written. -/
def Log.Format.written : List (String × Log.Format) := [("text", .text), ("json", .json)]

theorem Log.Format.exists_word (f : Log.Format) :
    ∃ word, Log.Format.written.lookup word = some f := by
  cases f with
  | text => exact ⟨"text", by decide⟩
  | json => exact ⟨"json", by decide⟩

/-- The slots of the log section. -/
def Log.Settings.slots : List (Slot Log.Settings) :=
  [⟨"level", .string, Log.Settings.level, fun a l => { l with level := a }, fun _ _ => rfl⟩,
   ⟨"format", .choice Log.Format.written Log.Format.exists_word, Log.Settings.format,
      fun a l => { l with format := a }, fun _ _ => rfl⟩]

theorem Log.Settings.makeUp : MakeUp Log.Settings.slots where
  nodup := by decide
  get_set_of_ne := by simp [slots]
  ext r r' h := by
    cases r
    cases r'
    simpa [slots] using h

namespace Config

/-- The slots of the configuration: its sections. -/
def slots : List (Slot Config) :=
  [⟨"exporter", .record "HttpConfig" Endpoint.slots Endpoint.makeUp {}, Config.endpoint,
      fun a c => { c with endpoint := a }, fun _ _ => rfl⟩,
   ⟨"collectors", .record "CollectorSelection" Selection.slots Selection.makeUp {},
      Config.collectors, fun a c => { c with collectors := a }, fun _ _ => rfl⟩,
   ⟨"gpu", .record "GpuConfig" GpuSettings.slots GpuSettings.makeUp {}, Config.gpu,
      fun a c => { c with gpu := a }, fun _ _ => rfl⟩,
   ⟨"logging", .record "LoggingConfig" Log.Settings.slots Log.Settings.makeUp {}, Config.logging,
      fun a c => { c with logging := a }, fun _ _ => rfl⟩]

theorem makeUp : MakeUp slots where
  nodup := by decide
  get_set_of_ne := by simp [slots]
  ext r r' h := by
    cases r
    cases r'
    simpa [slots] using h

/-- The documents that write a configuration. -/
def Writes (v : Value) (c : Config) : Prop := WritesRecord slots {} v c

/-- **A configuration is decoded from every document that writes it.** -/
theorem decode?_of_writes {v : Value} {c : Config} (h : Writes v c) : decode? v = .ok c :=
  record_of_writesRecord makeUp h "ExporterConfig"

/-- **Every configuration can be written.** -/
theorem exists_writes (c : Config) : ∃ v, Writes v c := exists_writesRecord makeUp {} c

/-- **A document that writes a configuration can be laid out**, with any gap of white space. -/
theorem laidOut_of_writes {v : Value} {c : Config} (h : Writes v c) {gap : List Char}
    (hgap : ∀ c ∈ gap, c ∈ blanks) : LaidOut v.tokens (spaced gap v.tokens) :=
  laidOut_spaced hgap (isWritten_of_writesRecord h)

/-- **A valid configuration is read back from every text in which it is written**: whatever stands
at its default may be left out, and neither the order of the sections and fields, nor unknown
names, nor the spelling of strings, nor the layout matter. -/
theorem ofText?_of_writes {c : Config} (hvalid : c.validate = .ok c) {v : Value}
    (hwrites : Writes v c) {text : String} (hlaid : LaidOut v.tokens text.toList) :
    ofText? text = .ok c := by
  have hread : read? text = .ok c := by
    rw [read?, Value.ofText?_of_laidOut hlaid]
    dsimp only
    rw [decode?_of_writes hwrites]
  rw [ofText?, hread]
  dsimp only
  rw [hvalid]

/-- A configuration that is mostly at its defaults. -/
def sparse : Config :=
  { endpoint := { path := "/\"\u2028" }, gpu := { backend := .nvidiaSmi } }

/-- A document for it. The device section comes first, an unknown name follows, and the two
sections at their defaults are missing, as are three fields of the others. -/
def sparseDocument : Value := .object
  [("gpu".toList.map .literal,
    .object [("backend".toList.map .literal, .string ("nvidia-smi".toList.map .literal))]),
   ("note".toList.map .literal, .string [.escaped 'n']),
   ("exporter".toList.map .literal,
    .object [("path".toList.map .literal,
      .string [.unit '0' '0' '2' 'F', .escaped '"', .unit '2' '0' '2' '8'])])]

/-- A text for it. -/
def sparseText : String :=
  " \x7b \"gpu\" : \x7b \"backend\" : \"nvidia-smi\" \x7d , \"note\" : \"\\n\" , \"exporter\" : " ++
    "\x7b \"path\" : \"\\u002F\\\"\\u2028\" \x7d \x7d"

theorem writes_sparse : Writes sparseDocument sparse := by
  have hmeans : BackendKind.written.lookup "nvidia-smi" = some .nvidiaSmi := by decide
  have hbackend : WritesChoice BackendKind.written (.string ("nvidia-smi".toList.map .literal))
      .nvidiaSmi := .of hmeans (.of (by decide))
  have hgpu : WritesRecord GpuSettings.slots {} (.object [("backend".toList.map .literal,
      .string ("nvidia-smi".toList.map .literal))]) sparse.gpu :=
    .of (.field (.head _) (by decide) hbackend (by simp) .nil) (by simp [GpuSettings.slots, sparse])
  have hpath : WritesString (.string [.unit '0' '0' '2' 'F', .escaped '"', .unit '2' '0' '2' '8'])
      sparse.endpoint.path := .of (by decide)
  have hendpoint : WritesRecord Endpoint.slots {} (.object [("path".toList.map .literal,
      .string [.unit '0' '0' '2' 'F', .escaped '"', .unit '2' '0' '2' '8'])]) sparse.endpoint :=
    .of (.field (.tail _ (.head _)) (by decide) hpath (by simp) .nil)
      (by simp [Endpoint.slots, sparse])
  have hunknown : "note" ∉ slots.map Slot.name := by decide
  have hnote : WritesString (.string [.escaped 'n']) "\n" := .of (by decide)
  exact .of
    (.field (.tail _ (.tail _ (.head _))) (by decide) hgpu (by simp)
      (.unknown hunknown (by decide) hnote
        (.field (.head _) (by decide) hendpoint (by simp) .nil)))
    (by simp [slots, sparse])

theorem ofText?_of_writes_sparse :
    sparse.validate = .ok sparse ∧ Writes sparseDocument sparse ∧
      LaidOut sparseDocument.tokens sparseText.toList ∧ ofText? sparseText = .ok sparse := by
  have hvalid : sparse.validate = .ok sparse := by decide +kernel
  have hlaid : LaidOut sparseDocument.tokens sparseText.toList := by
    have htext : sparseText.toList = spaced [' '] sparseDocument.tokens := by decide +kernel
    rw [htext]
    exact laidOut_of_writes writes_sparse (by simp [blanks])
  exact ⟨hvalid, writes_sparse, hlaid, ofText?_of_writes hvalid writes_sparse hlaid⟩

end Config

end GpuMetrics
