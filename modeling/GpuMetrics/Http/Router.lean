import GpuMetrics.Config.Basic
import GpuMetrics.Http.Path
import GpuMetrics.Metric.Exposition
import GpuMetrics.Scrape
import GpuMetrics.Text.Json

/-!
# Requests and their answers

The server answers four paths: the metrics path, `/health`, `/collectors` and `/`. The latter
three win where the metrics path is a pattern that matches them too. Every answer is a function of
the request and of the machine at that moment; a scrape that crashes is answered with an error and
leaves nothing behind.
-/

namespace GpuMetrics.Http

open Backend Log GpuMetrics.Metric

/-- A request, as far as its answer depends on it. -/
structure Request where
  method : String
  /-- The path and the query as they are sent. -/
  target : String
  deriving DecidableEq, Repr

/-- The path of a request, without its query. -/
def Request.path (r : Request) : List Char := r.target.toList.takeWhile (· ≠ '?')

/-- An answer. -/
structure Response where
  status : Nat
  headers : List (String × String)
  body : String
  deriving DecidableEq, Repr

/-- What the server answers itself or from a scrape. -/
inductive Route where
  | metrics
  | health
  | collectors
  | index
  deriving DecidableEq, Repr

/-- The routes of a server, given by its metrics path. -/
structure Router where
  metricsPath : String
  pattern : Pattern

namespace Router

/-- The router for a metrics path. There is none for a path that is no pattern or that is one of
the other paths. -/
def ofPath? (path : String) : Option Router :=
  if Config.reservedPaths.contains path then none
  else (Pattern.ofText? path.toList).map (⟨path, ·⟩)

/-- What a path leads to. -/
def route? (r : Router) (path : List Char) : Option Route :=
  if path = "/health".toList then some .health
  else if path = "/collectors".toList then some .collectors
  else if path = "/".toList then some .index
  else if r.pattern.accepts path then some .metrics
  else none

/-- The landing page. -/
def indexPage (metricsPath : String) : String :=
  "<html>\n<head><title>GPUSight Exporter</title></head>\n<body>\n<h1>GPUSight Exporter</h1>\n" ++
    "<p><a href=\"" ++ metricsPath ++ "\">Metrics</a></p>\n</body>\n</html>\n"

/-- The type of plain text. -/
def plainText : String := "text/plain; charset=utf-8"

/-- The report on a task that crashed. -/
def crashReport (task : Nat) (message : String) : String :=
  s!"task {task} panicked with message {Text.quoted message}"

/-- The answer of the metrics route, the scrape being the task of this number. -/
def metricsAnswer (scrape : Scrape) (task : Nat) : Response × List Event :=
  match scrape.result with
  | .ok samples =>
    (⟨200, [("content-type", Exposition.contentType)], Exposition.render samples⟩, scrape.events)
  | .error message =>
    let report := crashReport task message
    (⟨500, [("content-type", plainText)], s!"scrape failed: {report}\n"⟩,
      scrape.events ++ [.scrapeTaskFailed report])

/-- The answer of a route, the scrape, if it takes one, being the one given. -/
def routeAnswer (r : Router) (scraper : Scraper) (scrape : Scrape) (task : Nat) :
    Route → Response × List Event
  | .metrics => metricsAnswer scrape task
  | .health => (⟨200, [("content-type", plainText)], "healthy\n"⟩, [])
  | .collectors =>
    (⟨200, [("content-type", "application/json")],
      Text.jsonObject [("collectors", Text.jsonArray (scraper.names.map Text.jsonString))]⟩, [])
  | .index => (⟨200, [("content-type", "text/html; charset=utf-8")], indexPage r.metricsPath⟩, [])

/-- What on a request an answer may depend on, for caches. -/
def varyHeader : String × String :=
  ("vary", "origin, access-control-request-method, access-control-request-headers")

/-- The answer to a browser that asks beforehand: every origin may do everything. -/
def preflightAnswer : Response :=
  ⟨200,
    [("access-control-allow-origin", "*"), ("access-control-allow-methods", "*"),
     ("access-control-allow-headers", "*"), varyHeader],
    ""⟩

/-- The answer with the headers that let every origin read it. -/
def shared (r : Response) : Response :=
  { r with
    headers := r.headers ++
      [("access-control-allow-origin", "*"), ("access-control-expose-headers", "*"), varyHeader] }

/-- The answer to a request on a machine, and the events on the way to it. Only the metrics route
scrapes. A request for the headers alone is answered like any other, without the body. -/
def answer (r : Router) (scraper : Scraper) (host : Host) (elapsed : Nat → Binary64) (task : Nat)
    (request : Request) : Response × List Event :=
  if request.method = "OPTIONS" then (preflightAnswer, [])
  else
    match r.route? request.path with
    | none => (shared ⟨404, [], ""⟩, [])
    | some route =>
      if request.method = "GET" ∨ request.method = "HEAD" then
        let (response, events) :=
          r.routeAnswer scraper (scraper.scrape host elapsed) task route
        (shared (if request.method = "HEAD" then { response with body := "" } else response),
          events)
      else (shared ⟨405, [("allow", "GET,HEAD")], ""⟩, [])

end Router

end GpuMetrics.Http
