import GpuMetrics.Exporter.Failure
import GpuMetrics.Http.Server

/-!
# The life of the program

Once its collectors are built, the program starts the server as a task of its own and waits: for a
signal to stop, or for the task to end. After a signal it tells the server to stop and waits again,
but only for a grace period. Then, and only then, it shuts the collectors down, once, and ends.

The world around it acts when it likes: a signal comes, the task ends, the grace period runs out.
What the program does about it is a step of its own, and by the time it takes that step more may
have happened. So a life is a list of **happenings** in any order
(`GpuMetrics.Exporter.Lifetime.run`); those that cannot happen as things stand change nothing.
-/

namespace GpuMetrics.Exporter

open Http Log

/-- The signals on which the program stops. -/
inductive StopRequest where
  | interrupt
  | terminate
  deriving DecidableEq, Repr

/-- The event of noticing a signal. -/
def StopRequest.event : StopRequest → Event
  | .interrupt => .interruptReceived
  | .terminate => .terminationReceived

/-- What the program is waiting for. -/
inductive Phase where
  /-- A signal or the end of the server. -/
  | serving
  /-- The end of the server or of the grace period. -/
  | stopping
  /-- Nothing any more. The server ended like this, as far as the program knows. -/
  | ended (ending : TaskEnd)
  deriving DecidableEq, Repr

/-- The program after it started its server. -/
structure Lifetime where
  scraper : Scraper
  phase : Phase := .serving
  /-- The first signal that came. -/
  signal : Option StopRequest := none
  /-- How the server's task ended, if it has ended. -/
  task : Option TaskEnd := none
  /-- Everything logged so far. -/
  events : List Event := []

/-- What can happen in the life of the program. -/
inductive Happening where
  /-- A signal comes. -/
  | signal (s : StopRequest)
  /-- The server's task logs something. -/
  | taskLogs (events : List Event)
  /-- The server's task ends. -/
  | taskEnds (ending : TaskEnd)
  /-- The program notices a signal. -/
  | noticeSignal
  /-- The program notices the end of the task. -/
  | noticeEnd
  /-- The grace period runs out before the task has ended. -/
  | graceExpires
  deriving DecidableEq, Repr

/-- The last events of a life. A crashed server is left to the report on the failure. -/
def closingEvents : TaskEnd → List Event
  | .finished => [.exporterStopped]
  | .failed report => [.serverFailed report]
  | .crashed _ => []

namespace Lifetime

/-- The program at its end: the collectors are shut down, and what there is to say is said. -/
def conclude (l : Lifetime) (ending : TaskEnd) : Lifetime :=
  let (scraper, released) := l.scraper.shutdown
  { l with
    scraper
    phase := .ended ending
    events := l.events ++ released ++ closingEvents ending }

/-- The program after a happening. -/
def step (l : Lifetime) : Happening → Lifetime
  | .signal s => if l.signal.isSome then l else { l with signal := some s }
  | .taskLogs events => if l.task.isSome then l else { l with events := l.events ++ events }
  | .taskEnds ending => if l.task.isSome then l else { l with task := some ending }
  | .noticeSignal =>
    match l.phase, l.signal with
    | .serving, some s =>
      { l with
        phase := .stopping
        events := l.events ++ s.event :: tellServer l.task.isNone }
    | _, _ => l
  | .noticeEnd =>
    match l.phase, l.task with
    | .ended _, _ => l
    | _, some ending => l.conclude ending
    | _, none => l
  | .graceExpires =>
    match l.phase, l.task with
    | .stopping, none =>
      let awaited := awaitServer none
      { l with events := l.events ++ awaited.events }.conclude awaited.value
    | _, _ => l

/-- **Nothing happens to a program that has ended**, except that the world may go on. -/
theorem phase_step_of_ended {l : Lifetime} {ending : TaskEnd} (h : l.phase = .ended ending)
    (next : Happening) : (l.step next).phase = .ended ending := by
  cases next with
  | signal s => by_cases hs : l.signal.isSome <;> simp [step, hs, h]
  | taskLogs events => by_cases ht : l.task.isSome <;> simp [step, ht, h]
  | taskEnds e => by_cases ht : l.task.isSome <;> simp [step, ht, h]
  | noticeSignal => simp [step, h]
  | noticeEnd => simp [step, h]
  | graceExpires => simp [step, h]

/-- The program after a list of happenings. -/
def run (l : Lifetime) (happenings : List Happening) : Lifetime := happenings.foldl step l

@[simp] theorem run_nil (l : Lifetime) : l.run [] = l := rfl

@[simp] theorem run_cons (l : Lifetime) (h : Happening) (rest : List Happening) :
    l.run (h :: rest) = (l.step h).run rest := rfl

/-- What happens later happens to what came of what happened before. -/
theorem run_append (l : Lifetime) (earlier later : List Happening) :
    l.run (earlier ++ later) = (l.run earlier).run later := by
  unfold run
  rw [List.foldl_append]

/-- How the program ended, if it has: well, or with a failure. -/
def result? (l : Lifetime) : Option (Except Failure Unit) :=
  match l.phase with
  | .ended .finished => some (.ok ())
  | .ended (.failed report) => some (.error (.server report))
  | .ended (.crashed report) => some (.error (.serverTask report))
  | _ => none

end Lifetime

end GpuMetrics.Exporter
