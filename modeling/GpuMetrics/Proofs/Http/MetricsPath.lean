import GpuMetrics.Proofs.Config.Verdict
import GpuMetrics.Proofs.Http.Independence
import GpuMetrics.Proofs.Http.Pattern
import Mathlib.Data.List.TakeWhile

/-!
# What becomes of an accepted metrics path

The check of a configuration asks of the metrics path that it starts with a slash and is not one
of the server's own paths. The path is then read three more times: the router reads it as a
pattern, a request is cut at its question mark, and the landing page has it between quotation
marks. An accepted path may be refused, missed or cut short by these readings. When it is not is
said by `GpuMetrics.Http.Router.ServesPath`, which holds of every accepted path
(`GpuMetrics.Http.Router.servesPath_of_validate`).
-/

namespace GpuMetrics.Http

open Backend Log GpuMetrics.Metric

/-! ### The link on the landing page -/

/-- What stands behind the first occurrence of a mark. -/
def behind? (mark : List Char) : List Char → Option (List Char)
  | [] => none
  | c :: rest =>
    if mark.isPrefixOf (c :: rest) then some ((c :: rest).drop mark.length) else behind? mark rest

/-- A mark that does not begin any sooner is found where it stands. -/
theorem behind?_append {mark : List Char} (hmark : mark ≠ []) {front : List Char}
    (hfront : behind? mark (front ++ mark.dropLast) = none) (rest : List Char) :
    behind? mark (front ++ (mark ++ rest)) = some rest := by
  induction front with
  | nil =>
    obtain ⟨c, mark, rfl⟩ := List.exists_cons_of_ne_nil hmark
    simp [behind?]
  | cons c front ih =>
    rw [List.cons_append, behind?] at hfront ⊢
    have hsooner : mark.isPrefixOf (c :: (front ++ (mark ++ rest))) = false := by
      -- otherwise it would begin in the front as well, the end of which is long enough for it
      rw [← Bool.not_eq_true, List.isPrefixOf_iff_prefix]
      intro hprefix
      have hlonger : c :: (front ++ mark.dropLast) <+: c :: (front ++ (mark ++ rest)) := by
        rw [List.cons_prefix_cons, List.prefix_append_right_inj]
        exact ⟨rfl, (List.dropLast_prefix mark).trans (List.prefix_append mark rest)⟩
      have hlength : mark.length ≤ (c :: (front ++ mark.dropLast)).length := by
        simp only [List.length_cons, List.length_append, List.length_dropLast]
        omega
      have hshort := List.prefix_of_prefix_length_le hprefix hlonger hlength
      rw [if_pos (List.isPrefixOf_iff_prefix.mpr hshort)] at hfront
      cases hfront
    rw [hsooner]
    refine ih ?_
    split at hfront
    · cases hfront
    · exact hfront

/-- Where the first link of a page leads: what stands between the quotation marks. -/
def hrefOf? (page : String) : Option String :=
  (behind? "href=\"".toList page.toList).map fun rest => String.ofList (rest.takeWhile (· ≠ '"'))

theorem takeWhile_append_quote (text rest : List Char) :
    (text ++ '"' :: rest).takeWhile (· ≠ '"') = text.takeWhile (· ≠ '"') := by
  induction text with
  | nil => simp
  | cons c text ih => simp only [List.cons_append, List.takeWhile_cons, ih]

namespace Router

/-- The landing page up to its link. -/
def pageFront : String :=
  "<html>\n<head><title>GPUSight Exporter</title></head>\n<body>\n" ++
    "<h1>GPUSight Exporter</h1>\n<p><a "

/-- The landing page behind its link. -/
def pageBack : String := ">Metrics</a></p>\n</body>\n</html>\n"

theorem toList_indexPage (path : String) :
    (indexPage path).toList
      = pageFront.toList ++ ("href=\"".toList ++ (path.toList ++ '"' :: pageBack.toList)) := by
  have hfront : (
      "<html>\n<head><title>GPUSight Exporter</title></head>\n<body>\n<h1>GPUSight Exporter</h1>\n"
        ++ "<p><a href=\"").toList = pageFront.toList ++ "href=\"".toList := by
    decide +kernel
  have hback : "\">Metrics</a></p>\n</body>\n</html>\n".toList = '"' :: pageBack.toList := by
    decide +kernel
  unfold indexPage
  rw [String.toList_append, String.toList_append, hfront, hback]
  simp only [List.append_assoc]

/-- The link on the landing page is the metrics path up to its first quotation mark. -/
theorem hrefOf?_indexPage (path : String) :
    hrefOf? (indexPage path) = some (String.ofList (path.toList.takeWhile (· ≠ '"'))) := by
  rw [hrefOf?, toList_indexPage, behind?_append (by decide) (by decide +kernel), Option.map_some,
    takeWhile_append_quote]

theorem hrefOf?_indexPage_iff {path : String} :
    hrefOf? (indexPage path) = some path ↔ '"' ∉ path.toList := by
  rw [hrefOf?_indexPage, Option.some.injEq, ← String.toList_inj, String.toList_ofList,
    List.takeWhile_eq_self_iff]
  constructor
  · intro h hquote
    simpa using h _ hquote
  · rintro h c hc
    simpa using fun heq : c = '"' => h (heq ▸ hc)

/-! ### The three readings of a path -/

/-- The characters that a path in a request may consist of. -/
def isPathChar (c : Char) : Bool :=
  c.isAlphanum || "-._~!$&'()*+,;=:@%/".toList.contains c

/-- A path without a question mark is its own request. -/
theorem path_request {path : String} (h : '?' ∉ path.toList) (method : String) :
    Request.path ⟨method, path⟩ = path.toList := by
  rw [Request.path, List.takeWhile_eq_self_iff]
  intro c hc
  simpa using fun heq : c = '?' => h (heq ▸ hc)

/-- No request has a path with a question mark. -/
theorem notMem_path (request : Request) : '?' ∉ request.path := by
  intro h
  simpa using List.mem_takeWhile_imp h

/-- There is a router for a path of its own just if it is a pattern. -/
theorem exists_ofPath?_iff {path : String} (hfree : path ∉ Config.reservedPaths) :
    (∃ r, ofPath? path = some r) ↔ Pattern.IsPattern path.toList := by
  rw [Pattern.isPattern_iff]
  constructor
  · rintro ⟨r, hr⟩
    exact ⟨r.pattern, (ofPath?_eq_some_iff.mp hr).2.1⟩
  · rintro ⟨p, hp⟩
    exact ⟨⟨path, p⟩, ofPath?_eq_some_iff.mpr ⟨hfree, hp, rfl⟩⟩

/-- What becomes of a path as the metrics path of a server. -/
structure ServesPath (path : String) : Prop where
  /-- The server starts just if the path is a pattern; otherwise it crashes. -/
  starts_iff (scraper : Scraper) (network : Network) (address : String) (elapsed : Nat → Binary64)
    (task : Nat) (requests : List (Request × Host)) (loop : StopLoop) :
    (∀ report,
        (Server.serve ⟨scraper, path⟩ network address elapsed task requests loop).ending
          ≠ some (.crashed report)) ↔
      Pattern.IsPattern path.toList
  /-- A path without wildcards is a pattern. -/
  starts_plain : (∀ c ∈ path.toList, isWildcard c = false) → Pattern.IsPattern path.toList
  /-- A request for exactly the path is answered with what a scrape exposes, if the path is one that
  can be asked for. -/
  exposes : Pattern.IsPattern path.toList → (∀ c ∈ path.toList, isPathChar c = true) →
    ∀ (scraper : Scraper) (host : Host) (elapsed : Nat → Binary64) (task : Nat),
      (∀ c ∈ scraper.collectors, c.Survives host) →
      ∃ r samples, ofPath? path = some r ∧ (scraper.scrape host elapsed).result = .ok samples ∧
        (r.answer scraper host elapsed task ⟨"GET", path⟩).1
          = shared ⟨200, [("content-type", Exposition.contentType)], Exposition.render samples⟩
  /-- A path with a question mark, and without wildcards, cannot be reached by any request. -/
  out_of_reach : (∀ c ∈ path.toList, isWildcard c = false) → '?' ∈ path.toList →
    ∀ r, ofPath? path = some r → ∀ request : Request, r.route? request.path ≠ some .metrics
  /-- The link on the landing page leads to the path just if there is no quotation mark in it. -/
  links_iff (r : Router) : ofPath? path = some r →
    ∀ (scraper : Scraper) (host : Host) (elapsed : Nat → Binary64) (task : Nat),
      hrefOf? (r.answer scraper host elapsed task ⟨"GET", "/"⟩).1.body = some path ↔
        '"' ∉ path.toList

/-- **What becomes of the metrics path of a valid configuration.** -/
theorem servesPath_of_validate {c : Config} (h : c.validate = .ok c) :
    ServesPath c.endpoint.path where
  starts_iff scraper network address elapsed task requests loop := by
    rw [← exists_ofPath?_iff (Config.validate_eq_ok_iff.mp h).path_free, Server.serve]
    cases ofPath? c.endpoint.path with
    | none => simp
    | some r =>
      dsimp only
      split <;> simp
  starts_plain hplain := by
    have habsolute := (Config.validate_eq_ok_iff.mp h).path_absolute
    obtain ⟨text, htext⟩ : ∃ text, c.endpoint.path.toList = '/' :: text := by
      cases hpath : c.endpoint.path.toList with
      | nil => simp [hpath] at habsolute
      | cons first text => exact ⟨text, by simpa [hpath] using habsolute⟩
    rw [htext] at hplain ⊢
    refine ⟨text, _, rfl, Pattern.writes_map_literal (List.forall_mem_cons.mp hplain).2 '/', ?_⟩
    have hcount : (text.map PatternPart.literal).count .parameter = 0 :=
      List.count_eq_zero.mpr (by simp)
    rw [hcount]
    exact Nat.zero_le _
  exposes hpattern hchars scraper host elapsed task hsurvives := by
    have hfree := (Config.validate_eq_ok_iff.mp h).path_free
    obtain ⟨r, hr⟩ := (exists_ofPath?_iff hfree).mpr hpattern
    have hquestion : '?' ∉ c.endpoint.path.toList := fun hmem => by
      simpa [isPathChar] using hchars _ hmem
    have hpath := path_request hquestion "GET"
    have haccepts := Pattern.accepts_of_ofText? (ofPath?_eq_some_iff.mp hr).2.1
    obtain ⟨samples, hsamples, hanswer⟩ := (answer_metrics r scraper host elapsed task rfl
      (by rwa [hpath, String.ofList_toList]) (by rwa [hpath])).1 hsurvives
    exact ⟨r, samples, hr, hsamples, hanswer⟩
  out_of_reach hplain hquestion r hr request hroute := by
    have haccepts : r.pattern.accepts request.path = true := by
      by_contra hmisses
      simp only [route?, hmisses, if_false] at hroute
      split_ifs at hroute <;> cases hroute
    rw [Pattern.accepts_iff_of_ofText? (ofPath?_eq_some_iff.mp hr).2.1 hplain] at haccepts
    exact notMem_path request (haccepts ▸ hquestion)
  links_iff r hr scraper host elapsed task := by
    have hindex : Request.path ⟨"GET", "/"⟩ = "/".toList := by decide
    have hroute : r.route? (Request.path ⟨"GET", "/"⟩) = some .index := by simp [hindex, route?]
    rw [answer_get r scraper host elapsed task rfl hroute, ← (ofPath?_eq_some_iff.mp hr).2.2]
    exact hrefOf?_indexPage_iff

/-- A path of two segments, of which the second is a parameter. -/
theorem servesPath_parameter :
    ∃ c : Config, c.endpoint.path = "/metrics/:node" ∧ c.validate = .ok c ∧
      ServesPath c.endpoint.path ∧ Pattern.IsPattern c.endpoint.path.toList ∧
      (∀ ch ∈ c.endpoint.path.toList, isPathChar ch = true) ∧ '"' ∉ c.endpoint.path.toList := by
  have hvalid : Config.validate { endpoint := { path := "/metrics/:node" } }
      = .ok { endpoint := { path := "/metrics/:node" } } := by decide +kernel
  exact ⟨_, rfl, hvalid, servesPath_of_validate hvalid,
    Pattern.isPattern_iff.mpr ⟨_, rfl⟩, List.all_eq_true.mp rfl, by decide⟩

/-- **Not every accepted path serves metrics**: behind the name of a parameter no other may begin
in the same segment, and a server with such a path crashes at its start. -/
theorem not_all_paths_serve :
    ¬∀ c : Config, c.validate = .ok c →
      (∀ (scraper : Scraper) (network : Network) (address : String) (elapsed : Nat → Binary64)
        (task : Nat) (requests : List (Request × Host)) (loop : StopLoop) (report : String),
        (Server.serve ⟨scraper, c.endpoint.path⟩ network address elapsed task requests loop).ending
          ≠ some (.crashed report)) ∧
      (∀ (scraper : Scraper) (host : Host) (elapsed : Nat → Binary64) (task : Nat),
        (∀ c ∈ scraper.collectors, c.Survives host) →
        ∃ r samples, ofPath? c.endpoint.path = some r ∧
          (scraper.scrape host elapsed).result = .ok samples ∧
          (r.answer scraper host elapsed task ⟨"GET", c.endpoint.path⟩).1
            = shared ⟨200, [("content-type", Exposition.contentType)],
                Exposition.render samples⟩) ∧
      hrefOf? (indexPage c.endpoint.path) = some c.endpoint.path := by
  intro hlaw
  have hvalid : Config.validate { endpoint := { path := "/:x:y" } }
      = .ok { endpoint := { path := "/:x:y" } } := by decide +kernel
  have hnone : ofPath? "/:x:y" = none := rfl
  obtain ⟨s, -⟩ := Scraper.exists_ofCollectors?_node []
  refine (hlaw _ hvalid).1 s ⟨fun _ => .ok "127.0.0.1:9835", true⟩ "127.0.0.1:9835" (fun _ => .zero)
    0 [] .fresh (crashReport 0 (Server.routeReport "/:x:y")) ?_
  rw [Server.serve, hnone]

end Router

end GpuMetrics.Http
