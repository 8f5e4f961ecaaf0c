import GpuMetrics.Exporter.Lifetime
import GpuMetrics.Exporter.Start
import GpuMetrics.Log.Line

/-!
# Runs of the program

A run is a function of the arguments, of the environment, and of the session: which requests come
and which signal ends it. Its outcome is everything that can be seen of it from outside.
-/

namespace GpuMetrics.Exporter

open Backend Http Log

/-- What a run depends on besides its arguments. -/
structure Environment where
  /-- What reading a file by name comes to. -/
  contents : String → Except SystemError (List UInt8)
  host : Host
  /-- The vendor's library. -/
  vendor : Vendor := .missing
  network : Network
  /-- The log filter that the environment asks for. -/
  logFilter : Option String
  /-- How long the update of each collector takes in a scrape. -/
  elapsed : Nat → Binary64
  /-- The number of the server's task. -/
  serverTask : Nat

/-- What happens while the server is up: requests, each with the machine at its time, and at last
a signal. -/
structure Session where
  requests : List (Request × Host)
  stop : StopRequest

/-- What a run that got past its arguments leaves behind. -/
structure RunReport where
  /-- The log. -/
  log : List String := []
  /-- The reports on what of the log settings was ignored. -/
  ignored : List String := []
  failure : Option Failure := none
  /-- The answers to the requests, if the server ever listened. -/
  responses : Option (List (Option Response)) := none

/-- The exit code of a run. -/
def RunReport.exitCode (r : RunReport) : Nat := if r.failure.isSome then 1 else 0

/-- What a run writes to standard error. -/
def RunReport.errorText (r : RunReport) : String :=
  String.join (r.ignored.map (· ++ "\n")) ++ (r.failure.map Failure.report).getD ""

/-- What can be seen of a run. -/
inductive Outcome where
  /-- The arguments were answered at once. -/
  | answered (text : String)
  /-- The arguments made no sense. -/
  | refused (cause : UsageError)
  | ran (report : RunReport)

/-- What a server that listens on an address comes to in a session: the answers, if it listened,
and what happens in the life of the program. -/
def sessionCourse (env : Environment) (server : Server) (address : Net.SocketAddress)
    (session : Session) : Option (List (Option Response)) × List Happening :=
  match env.network.bind address with
  | .error cause =>
    (none, [.taskEnds (.failed (Server.bindReport address.text cause)), .noticeEnd])
  | .ok localAddress =>
    let served := server.serve env.network localAddress env.elapsed env.serverTask session.requests
      (StopLoop.fresh.send true)
    match served.ending with
    | some .finished =>
      (some served.responses,
        [.taskLogs served.servingEvents, .signal session.stop, .noticeSignal,
          .taskLogs served.endingEvents, .taskEnds .finished, .noticeEnd])
    | some ending => (none, [.taskEnds ending, .noticeEnd])
    | none =>
      (some served.responses,
        [.taskLogs served.servingEvents, .signal session.stop, .noticeSignal, .graceExpires])

/-- A run with a configuration. -/
def runConfigured (env : Environment) (session : Session) (c : Config) : RunReport :=
  let choice := LogChoice.of env.logFilter c.logging.level
  let prepared := prepare c env.vendor
  let log (events : List Event) : List String := lines choice.filter c.logging.format events
  match prepared.value, Net.SocketAddress.ofText? c.endpoint.listen with
  | .error e, _ =>
    { log := log prepared.events, ignored := choice.ignored, failure := some (.collectors e) }
  | .ok _, none =>
    { log := log prepared.events, ignored := choice.ignored,
      failure := some (.config (.invalid (.listenAddress c.endpoint.listen))) }
  | .ok scraper, some address =>
    let (responses, happenings) := sessionCourse env ⟨scraper, c.endpoint.path⟩ address session
    let life := ({ scraper, events := prepared.events } : Lifetime).run happenings
    { log := log life.events, ignored := choice.ignored, responses
      failure := match life.result? with
        | some (.error failure) => some failure
        | _ => none }

/-- A run of the program. -/
def run (env : Environment) (session : Session) (arguments : List String) : Outcome :=
  match Command.ofArguments? arguments with
  | .error cause => .refused cause
  | .ok .help => .answered helpLine
  | .ok .version => .answered versionLine
  | .ok (.run options) =>
    match configured? env.contents options with
    | .error e => .ran { failure := some (.config e) }
    | .ok c => .ran (runConfigured env session c)

/-- The exit code of a run. -/
def Outcome.exitCode : Outcome → Nat
  | .answered _ => 0
  | .refused _ => 2
  | .ran report => report.exitCode

/-- The first line of what a usage error writes to standard error. -/
def UsageError.report (e : UsageError) : String := "error: " ++ e.message

end GpuMetrics.Exporter
