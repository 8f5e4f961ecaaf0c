import GpuMetrics.Http.Server
import GpuMetrics.Proofs.Scrape.Release

/-!
# Answers are independent of each other

A server answers one request after the other, while the commands that its collectors run may be
replaced at any time. Only requests for the metrics do anything at all: each of them scrapes, and
what a scrape leaves of a roster is up to its members (`GpuMetrics.Http.Router.visit`). If they
keep to themselves what they do in a scrape, as every collector is asked to, then all that a
request can depend on is the machine installed last (`GpuMetrics.Http.Router.serve_eq`): any
request, one that made a collector crash included, can be taken out of a run without changing the
other answers.

What the answers are is in `GpuMetrics.Http.Router.IsIndependent`, the paths that the server
answers itself going first even where the metrics path is a pattern that matches them.
-/

namespace GpuMetrics.Http

open Backend Log GpuMetrics.Metric

/-- What happens to a server. -/
inductive Visit where
  /-- A request, with the durations and the task number of the scrape that it may ask for. -/
  | request (request : Request) (elapsed : Nat → Binary64) (task : Nat)
  /-- The installed commands are replaced. -/
  | install (host : Host)

namespace Router

/-- Whether a request asks for a scrape. -/
def scrapes (r : Router) (request : Request) : Bool :=
  (request.method = "GET" || request.method = "HEAD") && r.route? request.path = some .metrics

/-- The answer to a visit, if it is a request, and what is left of the roster. -/
def visit (r : Router) (σ : Roster) : Visit → List (Response × List Event) × Roster
  | .request request elapsed task =>
    ([r.answer σ.scraper σ.host elapsed task request],
      if r.scrapes request then (σ.step (.scrape elapsed)).2 else σ)
  | .install host => ([], (σ.step (.install host)).2)

/-- The answers in a run, and what is left of the roster. -/
def serve (r : Router) : Roster → List Visit → List (Response × List Event) × Roster
  | σ, [] => ([], σ)
  | σ, v :: rest =>
    let now := r.visit σ v
    let more := serve r now.2 rest
    (now.1 ++ more.1, more.2)

/-- The machine after some visits to the given one. -/
def lastInstalled : Host → List Visit → Host
  | host, [] => host
  | _, .install host :: rest => lastInstalled host rest
  | host, .request .. :: rest => lastInstalled host rest

/-- The answers that take no notice of any history: each is that to its request alone, on the
machine of that moment. -/
def answersAlone (r : Router) (scraper : Scraper) : Host → List Visit → List (Response × List Event)
  | _, [] => []
  | _, .install host :: rest => answersAlone r scraper host rest
  | host, .request request elapsed task :: rest =>
    r.answer scraper host elapsed task request :: answersAlone r scraper host rest

/-- **A visit to a steady roster changes at most the machine.** -/
theorem visit_of_steady (r : Router) {σ : Roster} (h : σ.Steady) (v : Visit) :
    r.visit σ v
      = (r.answersAlone σ.scraper σ.host [v], { σ with host := lastInstalled σ.host [v] }) := by
  cases v with
  | request request elapsed task =>
    rw [visit, Roster.step_scrape h, ite_self]
    rfl
  | install host => rfl

/-- **In a run over a steady roster every request is answered as if it were the only one.** -/
theorem serve_eq (r : Router) {σ : Roster} (h : σ.Steady) (visits : List Visit) :
    r.serve σ visits = (r.answersAlone σ.scraper σ.host visits,
      { σ with host := lastInstalled σ.host visits }) := by
  induction visits generalizing σ with
  | nil => rfl
  | cons v visits ih =>
    -- the members, and with them the scraper and its steadiness, are the same for the rest
    have hrest := @ih { σ with host := lastInstalled σ.host [v] } h
    rw [serve, visit_of_steady r h, hrest]
    cases v <;> rfl

/-! ### The single answer -/

/-- A request to be answered with a body is answered by the handler of its route. -/
theorem answer_get (r : Router) (scraper : Scraper) (host : Host) (elapsed : Nat → Binary64)
    (task : Nat) {request : Request} (hmethod : request.method = "GET") {route : Route}
    (hroute : r.route? request.path = some route) :
    r.answer scraper host elapsed task request
      = (shared (r.routeAnswer scraper (scraper.scrape host elapsed) task route).1,
        (r.routeAnswer scraper (scraper.scrape host elapsed) task route).2) := by
  simp [answer, hmethod, hroute]

/-- A path that matches the metrics path leads there, unless the server answers it itself. -/
theorem route?_of_accepts {r : Router} {path : List Char}
    (hfree : String.ofList path ∉ Config.reservedPaths) (haccepts : r.pattern.accepts path = true) :
    r.route? path = some .metrics := by
  have hne {own : String} (hown : own ∈ Config.reservedPaths) : path ≠ own.toList := by
    rintro rfl
    exact hfree (String.ofList_toList.symm ▸ hown)
  rw [route?, if_neg (hne (by decide)), if_neg (hne (by decide)), if_neg (hne (by decide)),
    if_pos haccepts]

/-- **The metrics path is answered from a scrape**: with what it exposes if every collector
survives it, and with an error otherwise. -/
theorem answer_metrics (r : Router) (scraper : Scraper) (host : Host) (elapsed : Nat → Binary64)
    (task : Nat) {request : Request} (hmethod : request.method = "GET")
    (hfree : String.ofList request.path ∉ Config.reservedPaths)
    (haccepts : r.pattern.accepts request.path = true) :
    ((∀ c ∈ scraper.collectors, c.Survives host) →
      ∃ samples, (scraper.scrape host elapsed).result = .ok samples ∧
        (r.answer scraper host elapsed task request).1
          = shared ⟨200, [("content-type", Exposition.contentType)], Exposition.render samples⟩) ∧
    ((¬∀ c ∈ scraper.collectors, c.Survives host) →
      ∃ message, (scraper.scrape host elapsed).result = .error message ∧
        (r.answer scraper host elapsed task request).1
          = shared ⟨500, [("content-type", plainText)],
              s!"scrape failed: {crashReport task message}\n"⟩) := by
  have hanswer := answer_get r scraper host elapsed task hmethod (route?_of_accepts hfree haccepts)
  rw [hanswer, ← Scraper.exists_result_eq_ok_iff, routeAnswer, metricsAnswer]
  cases (scraper.scrape host elapsed).result with
  | ok samples => exact ⟨fun _ => ⟨samples, rfl, rfl⟩, fun h => absurd ⟨samples, rfl⟩ h⟩
  | error message => exact ⟨by rintro ⟨_, ⟨⟩⟩, fun _ => ⟨message, rfl, rfl⟩⟩

/-! ### What there is to know -/

/-- A router is for the path that it was made from. -/
theorem ofPath?_eq_some_iff {path : String} {r : Router} :
    ofPath? path = some r ↔
      path ∉ Config.reservedPaths ∧ Pattern.ofText? path.toList = some r.pattern ∧
        r.metricsPath = path := by
  cases r
  simp [ofPath?, and_comm, eq_comm]

/-- The machine matters to an answer only for what the collectors make of it. -/
theorem answer_congr (r : Router) {s s' : Scraper} (hduration : s.duration = s'.duration)
    (hsuccess : s.success = s'.success) {host host' : Host}
    (h : List.Forall₂ (fun c c' : Collector => c.name = c'.name ∧ c.update host = c'.update host')
      s.collectors s'.collectors) (elapsed : Nat → Binary64) (task : Nat) (request : Request) :
    r.answer s host elapsed task request = r.answer s' host' elapsed task request := by
  have hnames : s.names = s'.names :=
    List.forall₂_eq_eq_eq ▸ List.forall₂_map_left_iff.mpr
      (List.forall₂_map_right_iff.mpr (h.imp fun _ _ hc => hc.1))
  have hroutes (scrape : Scrape) (route : Route) :
      r.routeAnswer s scrape task route = r.routeAnswer s' scrape task route := by
    cases route <;> simp only [routeAnswer, hnames]
  simp only [answer, Scraper.scrape_congr hduration hsuccess elapsed h, hroutes]

/-- A scraper that knows no states answers as any roster that it represents. -/
theorem answer_of_represents (r : Router) {σ : Roster} {v : Scraper.Installed}
    (h : σ.Represents v) (host : Host) (elapsed : Nat → Binary64) (task : Nat) (request : Request) :
    r.answer σ.scraper host elapsed task request = r.answer v.scraper host elapsed task request :=
  r.answer_congr h.duration h.success
    (List.forall₂_map_left_iff.mpr
      (h.collectors.flip.imp fun _ _ hc => ⟨hc.name.symm, (hc.update_eq host).symm⟩))
    elapsed task request

/-- Scrapers with the same answers to single requests have the same answers in a run. -/
theorem answersAlone_congr (r : Router) {s s' : Scraper}
    (h : ∀ host elapsed task request,
      r.answer s host elapsed task request = r.answer s' host elapsed task request)
    (host : Host) (visits : List Visit) :
    r.answersAlone s host visits = r.answersAlone s' host visits := by
  induction visits generalizing host with
  | nil => rfl
  | cons v visits ih =>
    cases v with
    | request request elapsed task => exact congrArg₂ List.cons (h ..) (ih host)
    | install next => exact ih next

/-- **Any list of collectors answers in this way**, seen as a roster. -/
theorem serve_ofScraper (r : Router) (s : Scraper) (host : Host) (visits : List Visit) :
    (r.serve (.ofScraper s host) visits).1 = r.answersAlone s host visits := by
  have hrep := Roster.represents_ofScraper s host
  rw [serve_eq r hrep.steady]
  exact r.answersAlone_congr (r.answer_of_represents hrep) host visits

end Router

end GpuMetrics.Http
