import GpuMetrics.Http.Router
import GpuMetrics.Http.StopSignal
import GpuMetrics.Net.Address

/-!
# The server

A server binds its address, answers requests until it is told to stop, and ends. It can fail to
bind, and it crashes if there is no router for its metrics path. Whoever stops it waits a while
for its end and then leaves it alone.
-/

namespace GpuMetrics.Http

open Backend Log

/-- How the server's task ended. -/
inductive TaskEnd where
  | finished
  | failed (report : String)
  | crashed (report : String)
  deriving DecidableEq, Repr

/-- The network, as far as a server depends on it. -/
structure Network where
  /-- Binds an address and tells the local address of the listener. -/
  bind : Net.SocketAddress → Except SystemError String
  /-- Whether requests reach the listener. -/
  reachable : Bool

/-- What a server serves and where. -/
structure Server where
  scraper : Scraper
  path : String

namespace Server

/-- The report that an address could not be bound. -/
def bindReport (address : String) (cause : SystemError) : String :=
  s!"Failed to bind to {address}: {cause.message}"

/-- The report of a server without a router. -/
def routeReport (path : String) : String := s!"Invalid route {Text.quoted path}"

/-- The answers to a list of requests, each with the machine at its time, and the events on the
way. The scrapes are numbered as tasks from `task` on. Requests that do not reach the server have
no answer. -/
def answers (s : Server) (router : Router) (reachable : Bool) (elapsed : Nat → Binary64) :
    Nat → List (Request × Host) → List (Option Response) × List Event
  | _, [] => ([], [])
  | task, (request, host) :: rest =>
    let (more, events) := answers s router reachable elapsed (task + 1) rest
    if reachable then
      let (response, own) := router.answer s.scraper host elapsed task request
      (some response :: more, own ++ events)
    else (none :: more, events)

/-- What became of a server. -/
structure Served where
  responses : List (Option Response)
  /-- How the server's task ended, if it did. -/
  ending : Option TaskEnd
  /-- The events up to the last answer. -/
  servingEvents : List Event
  /-- The events of ending. -/
  endingEvents : List Event

/-- The course of a server on a bound listener: it answers the requests, and then its loop has come
to a standstill, as `loop` says. A server whose loop has not ended goes on. The server's own task
has the number `task`, and the scrapes have the numbers after it. -/
def serve (s : Server) (network : Network) (address : String) (elapsed : Nat → Binary64)
    (task : Nat) (requests : List (Request × Host)) (loop : StopLoop) : Served :=
  match Router.ofPath? s.path with
  | none =>
    ⟨requests.map fun _ => none, some (.crashed (Router.crashReport task (routeReport s.path))),
      [], []⟩
  | some router =>
    let (responses, events) :=
      s.answers router network.reachable elapsed (task + 1) requests
    let serving : List Event := .serverListening address s.path :: events
    if loop.settle.phase = .ended then
      ⟨responses, some .finished, serving, [.serverStopping, .serverStopped]⟩
    else ⟨responses, none, serving, []⟩

end Server

/-! ### Stopping a server -/

/-- Tells the server to stop. It is worth an event if there is no loop any more to be told. -/
def tellServer (listening : Bool) : List Event :=
  if listening then [] else [.serverAlreadyStopped]

/-- Waits for the server's task, which ended as `ending` says, if it ended in time. A server that
did not is left alone, as if it had finished. -/
def awaitServer (ending : Option TaskEnd) : Noted TaskEnd :=
  match ending with
  | some e => ⟨e, []⟩
  | none => ⟨.finished, [.serverNotStoppedInTime]⟩

/-- Stops a server: tells it to stop and waits for its end. -/
def stopServer (listening : Bool) (ending : Option TaskEnd) : Noted TaskEnd :=
  let awaited := awaitServer ending
  ⟨awaited.value, tellServer listening ++ awaited.events⟩

end GpuMetrics.Http
