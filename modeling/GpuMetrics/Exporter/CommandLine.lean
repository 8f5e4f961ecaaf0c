/-!
# The command line

The program takes options and nothing else. An option with a value takes it from the same argument
(`--listen=ADDRESS`, `-cFILE`, `-c=FILE`) or from the next one, unless that starts with a dash.
After `--` nothing is an option any more, so nothing is allowed.

The arguments are read from left to right by a machine with one option in hand
(`GpuMetrics.Exporter.ArgumentReader`). An option in hand is **settled** when the next option comes
or the arguments end: only then is it an error that it has no value or that it was given before.
An argument that has no business being there is an error at once, whatever is in hand.
-/

namespace GpuMetrics.Exporter

/-- The options that take a value. -/
inductive ValueOption where
  | config
  | listen
  | collector
  | noCollector
  | logLevel
  deriving DecidableEq, Repr

/-- The long name of an option, without its dashes. -/
def ValueOption.name : ValueOption → String
  | .config => "config"
  | .listen => "listen"
  | .collector => "collector"
  | .noCollector => "no-collector"
  | .logLevel => "log-level"

/-- What the value of an option is called. -/
def ValueOption.valueName : ValueOption → String
  | .config => "CONFIG"
  | .listen => "LISTEN"
  | .collector => "NAME"
  | .noCollector => "NAME"
  | .logLevel => "LOG_LEVEL"

/-- An option as usage errors show it. -/
def ValueOption.usage (o : ValueOption) : String := s!"--{o.name} <{o.valueName}>"

/-- The options without a value. -/
inductive Flag where
  | help
  | version
  deriving DecidableEq, Repr

/-- The long name of a flag, without its dashes. -/
def Flag.name : Flag → String
  | .help => "help"
  | .version => "version"

/-- What the options say. -/
structure Options where
  /-- The file to read the configuration from. -/
  config : Option String := none
  /-- The address to listen on. -/
  listen : Option String := none
  /-- The collectors to enable, in the order of the options. -/
  collectors : List String := []
  /-- The collectors to disable, in the order of the options. -/
  noCollectors : List String := []
  /-- The level of the log. -/
  logLevel : Option String := none
  deriving DecidableEq, Repr

/-- What is wrong with a command line. -/
inductive UsageError where
  | missingValue (option : ValueOption)
  | repeated (option : ValueOption)
  | unexpectedArgument (shown : String)
  /-- A flag was given a value. -/
  | unexpectedValue (value : String) (flag : Flag)
  deriving DecidableEq, Repr

/-- The wording of what is wrong. -/
def UsageError.message : UsageError → String
  | .missingValue o => s!"a value is required for '{o.usage}' but none was supplied"
  | .repeated o => s!"the argument '{o.usage}' cannot be used multiple times"
  | .unexpectedArgument shown => s!"unexpected argument '{shown}' found"
  | .unexpectedValue value flag =>
    s!"unexpected value '{value}' for '--{flag.name}' found; no more were expected"

/-- What the command line asks for. -/
inductive Command where
  | help
  | version
  | run (options : Options)
  deriving DecidableEq, Repr

/-- The options with one more. The two options that name a collector may be repeated, the others
may not. -/
def Options.add (os : Options) (o : ValueOption) (value : String) : Except UsageError Options :=
  match o with
  | .config =>
    if os.config.isSome then .error (.repeated o) else .ok { os with config := some value }
  | .listen =>
    if os.listen.isSome then .error (.repeated o) else .ok { os with listen := some value }
  | .collector => .ok { os with collectors := os.collectors ++ [value] }
  | .noCollector => .ok { os with noCollectors := os.noCollectors ++ [value] }
  | .logLevel =>
    if os.logLevel.isSome then .error (.repeated o) else .ok { os with logLevel := some value }

/-- An option that is not settled yet, with the value that followed it. -/
structure InHand where
  option : ValueOption
  value : Option String
  deriving DecidableEq, Repr

/-- The machine: the settled options, and the one in hand. -/
structure ArgumentReader where
  settled : Options := {}
  inHand : Option InHand := none
  deriving DecidableEq, Repr

/-- The options once the one in hand is settled. -/
def ArgumentReader.settle (r : ArgumentReader) : Except UsageError Options :=
  match r.inHand with
  | none => .ok r.settled
  | some ⟨o, some value⟩ => r.settled.add o value
  | some ⟨o, none⟩ => .error (.missingValue o)

/-- What an argument looks like. -/
inductive Shape where
  /-- Two dashes, a name, and perhaps a value after an equals sign. -/
  | long (name : List Char) (value : Option (List Char))
  /-- One dash and at least one more character. -/
  | short (first : Char) (rest : List Char)
  | plain
  deriving DecidableEq, Repr

/-- The shape of an argument. -/
def Shape.ofArgument : List Char → Shape
  | '-' :: '-' :: text =>
    match text.dropWhile (· ≠ '=') with
    | [] => .long text none
    | _ :: value => .long (text.takeWhile (· ≠ '=')) (some value)
  | '-' :: first :: rest => .short first rest
  | _ => .plain

/-- What a name on the command line stands for. -/
inductive Switch where
  | flag (f : Flag)
  | option (o : ValueOption)
  deriving DecidableEq, Repr

/-- What a long name stands for. -/
def longSwitch? (name : List Char) : Option Switch :=
  ([.option .config, .option .listen, .option .collector, .option .noCollector,
      .option .logLevel, .flag .help, .flag .version] : List Switch).find? fun
    | .flag f => f.name.toList = name
    | .option o => o.name.toList = name

/-- What a short name stands for. -/
def shortSwitch? : Char → Option Switch
  | 'c' => some (.option .config)
  | 'h' => some (.flag .help)
  | 'V' => some (.flag .version)
  | _ => none

/-- What reading an argument comes to: more arguments are read, or a flag settles what the command
is. -/
inductive Step where
  | go (next : ArgumentReader)
  | stop (command : Command)

/-- A flag comes: what is in hand is settled, and then the flag is obeyed. -/
def ArgumentReader.flag (r : ArgumentReader) (f : Flag) : Except UsageError Step :=
  match r.settle with
  | .error e => .error e
  | .ok _ =>
    match f with
    | .help => .ok (.stop .help)
    | .version => .ok (.stop .version)

/-- An option comes with the value that its own argument holds, if it holds one: what is in hand is
settled first. -/
def ArgumentReader.option (r : ArgumentReader) (o : ValueOption) (value : Option (List Char)) :
    Except UsageError Step :=
  match r.settle with
  | .error e => .error e
  | .ok settled =>
    match value with
    | none => .ok (.go ⟨settled, some ⟨o, none⟩⟩)
    | some v =>
      match settled.add o (String.ofList v) with
      | .error e => .error e
      | .ok settled => .ok (.go ⟨settled, none⟩)

/-- The value that the rest of a short option's argument holds. -/
def attachedValue : List Char → Option (List Char)
  | [] => none
  | '=' :: value => some value
  | value => some value

/-- Reads one argument, which is not just two dashes. -/
def ArgumentReader.step (r : ArgumentReader) (argument : String) : Except UsageError Step :=
  match Shape.ofArgument argument.toList with
  | .long name value =>
    match longSwitch? name, value with
    | some (.option o), value => r.option o value
    | some (.flag f), none => r.flag f
    | some (.flag f), some v => .error (.unexpectedValue (String.ofList v) f)
    | none, _ => .error (.unexpectedArgument ("--" ++ String.ofList name))
  | .short first rest =>
    match shortSwitch? first with
    | some (.option o) => r.option o (attachedValue rest)
    | some (.flag f) => r.flag f
    | none => .error (.unexpectedArgument (String.ofList ['-', first]))
  | .plain =>
    match r.inHand with
    | some ⟨o, none⟩ => .ok (.go { r with inHand := some ⟨o, some argument⟩ })
    | _ => .error (.unexpectedArgument argument)

/-- Reads the arguments that are left. -/
def ArgumentReader.run (r : ArgumentReader) : List String → Except UsageError Command
  | [] =>
    match r.settle with
    | .error e => .error e
    | .ok options => .ok (.run options)
  | argument :: rest =>
    if argument = "--" then
      match rest with
      | [] => r.run []
      | shown :: _ => .error (.unexpectedArgument shown)
    else
      match r.step argument with
      | .error e => .error e
      | .ok (.stop command) => .ok command
      | .ok (.go next) => next.run rest

/-- The command that arguments ask for. -/
def Command.ofArguments? (arguments : List String) : Except UsageError Command :=
  ({} : ArgumentReader).run arguments

/-- The first line of the help text. -/
def helpLine : String := "Export NVIDIA GPU metrics in the Prometheus format"

/-- The name of the program. -/
def programName : String := "gpusight-exporter"

/-- The line that tells the version. -/
def versionLine : String := programName ++ " 0.2.0"

end GpuMetrics.Exporter
