import Mintmark.Proofs.Http.Table
import Mintmark.Proofs.Settings.Checked

/-!
# Where the metrics are asked for

The path of the metrics is a matter of settings, and a check of settings asks of it no more than a
slash in front. A table of routes asks for more: a path that can be read as a pattern and does not
collide with a route of the service. A path that finds room may still be taken before the routes
about inventories, and then these are not reached for some of the inventories.
-/

namespace Mintmark.Http

namespace PathPart

variable {p q : List PathPart} {pre tail cs : List Char} {values values' : List String}
  {name : String}

theorem map_fixed_injective : Function.Injective (List.map fixed) :=
  List.map_injective_iff.mpr fun _ _ => fixed.inj

theorem precedes_fixed (p : List PathPart) (cs : List Char) :
    precedes p (cs.map fixed) = false := by
  induction p generalizing cs with
  | nil => rfl
  | cons x p ih => cases cs with
    | nil => cases x <;> rfl
    | cons c cs =>
      rw [List.map_cons, precedes]
      split
      · exact ih cs
      · next differ => exact Bool.eq_false_iff.mpr differ

/-- Fixed text is before a capture at the same place. -/
theorem precedes_capture (pre : List Char) (c : Char) (p q : List PathPart) :
    precedes (pre.map fixed ++ fixed c :: p) (pre.map fixed ++ capture name :: q) = true := by
  induction pre with
  | nil => rfl
  | cons d pre ih => exact ih

/-- A pattern that is before one with a single capture has fixed text in the place of it. -/
theorem eq_of_precedes_capture (fits : capture? p cs = some values)
    (fits' : capture? (pre.map fixed ++ capture name :: tail.map fixed) cs = some values')
    (before : precedes p (pre.map fixed ++ capture name :: tail.map fixed) = true) :
    ∃ c rest, p = pre.map fixed ++ fixed c :: rest := by
  induction pre generalizing p cs values values' with
  | nil => cases p with
    | nil => cases before
    | cons x p => cases x with
      | fixed c => exact ⟨c, p, rfl⟩
      | capture name =>
        cases (precedes_fixed p tail).symm.trans before
      | remainder name =>
        cases (precedes_fixed p tail).symm.trans before
  | cons d pre ih => cases p with
    | nil => cases before
    | cons x p =>
      rcases fits_cons fits' with ⟨_, ds', one, rfl, behind'⟩ | ⟨_, _, one, _⟩ | ⟨_, one⟩
      · cases one
        rcases fits_cons fits with ⟨c, ds, rfl, here, behind⟩ | ⟨_, _, rfl, _⟩ | ⟨_, rfl⟩
        · cases here
          obtain ⟨c, rest, rfl⟩ := ih behind behind' before
          exact ⟨c, rest, rfl⟩
        · cases before
        · cases before
      · cases one
      · cases one

theorem marks_of_plain (opening : '\x7b' ∉ cs) (closing : '\x7d' ∉ cs) :
    marks cs = cs.map fun c => (c, false) := by
  induction cs with
  | nil => rfl
  | cons c cs ih =>
    rw [List.mem_cons, not_or] at opening closing
    rw [marks, ih opening.2 closing.2, List.map_cons]
    · rintro _ rfl
      exact absurd rfl opening.1
    · rintro _ rfl
      exact absurd rfl closing.1

theorem ofMarks?_of_plain (opening : '\x7b' ∉ cs) (closing : '\x7d' ∉ cs) :
    ofMarks? .outside (cs.map fun c => (c, false)) = some (cs.map fixed) := by
  induction cs with
  | nil => rfl
  | cons c cs ih =>
    rw [List.mem_cons, not_or] at opening closing
    rw [List.map_cons, ofMarks?, ih opening.2 closing.2, if_neg, if_neg]
    · rfl
    · rintro ⟨⟩
      exact closing.1 rfl
    · rintro ⟨⟩
      exact opening.1 rfl

end PathPart

namespace Route

variable {metricsPath : Option String} {path method : String} {endpoint : Endpoint}

instance : Std.Symm Compatible where
  symm e e' := by
    rintro ⟨methods, told⟩
    refine ⟨fun paths => (methods paths.symm).symm, fun paths p hp q hq => ?_⟩
    rw [PathPart.clash_comm]
    exact told paths.symm q hq p hp

/-- Without braces, and without a segment that starts like a capture in the old spelling. -/
def IsPlain (path : String) : Prop :=
  '\x7b' ∉ path.toList ∧ '\x7d' ∉ path.toList ∧
    ∀ segment ∈ path.toList.splitOn '/', segment.head? ≠ some ':' ∧ segment.head? ≠ some '*'

instance (path : String) : Decidable (IsPlain path) := inferInstanceAs (Decidable (_ ∧ _ ∧ _))

theorem parse?_of_plain (slash : path.toList.head? = some '/') (plain : IsPlain path) :
    PathPart.parse? path = some (path.toList.map .fixed) := by
  obtain ⟨opening, closing, segments⟩ := plain
  have none_old : (path.toList.splitOn '/').any
      (fun s => s.head? == some ':' || s.head? == some '*') = false := by
    rw [List.any_eq_false]
    intro segment member
    simpa using segments segment member
  unfold PathPart.parse?
  dsimp only
  rw [if_neg (not_not_intro slash), none_old, if_neg Bool.false_ne_true,
    PathPart.marks_of_plain opening closing, PathPart.ofMarks?_of_plain opening closing]

/-- The metrics find room at a path beside the routes of the service. -/
def HasRoom (path : String) : Prop :=
  (PathPart.parse? path).isSome ∧
    ∀ e ∈ entries none, Compatible e (path, "GET", .metrics)

/-- What stands before the id in the paths that are about inventories. -/
def beforeId : List Char := "/v1/inventories/".toList

/-- A pattern of the service: fixed text, or one capture behind a start that no fixed text has. -/
def Shape (path : String) (pattern : List PathPart) : Prop :=
  pattern = path.toList.map .fixed ∧ ¬ beforeId <+: path.toList ∨
  ∃ (name : String) (tail : List Char),
    pattern = beforeId.map .fixed ++ .capture name :: tail.map .fixed

theorem exists_shape (listed : (path, method, endpoint) ∈ entries none) :
    ∃ pattern, PathPart.parse? path = some pattern ∧ Shape path pattern := by
  have spelled := Endpoint.listed_of_mem_entries listed
  have no_metrics : ∀ e ∈ entries none, e.2.2 ≠ .metrics := by decide
  cases fixed : endpoint.path? with
  | some other =>
    cases spelled.fixed other fixed
    refine ⟨_, Endpoint.parse?_path fixed, .inl ⟨rfl, ?_⟩⟩
    cases endpoint <;> cases fixed <;> decide
  | none => cases about : endpoint.ending? with
    | some ending =>
      cases spelled.about ending about
      exact ⟨_, Endpoint.parse?_ending about, .inr ⟨_, _, rfl⟩⟩
    | none =>
      refine absurd ?_ (no_metrics _ listed)
      cases endpoint <;> cases fixed <;> cases about
      rfl

theorem shape_of_parse? {pattern : List PathPart} (listed : (path, method, endpoint) ∈ entries none)
    (parsed : PathPart.parse? path = some pattern) : Shape path pattern := by
  obtain ⟨other, parsed', shape⟩ := exists_shape listed
  cases parsed.symm.trans parsed'
  exact shape

/-- No path fits two of the routes of the service. -/
theorem apart_entries : ∀ e ∈ entries none, ∀ e' ∈ entries none, e.1 ≠ e'.1 →
    ∀ p ∈ PathPart.parse? e.1, ∀ q ∈ PathPart.parse? e'.1, PathPart.apart p q = true := by
  decide +kernel

theorem compatible_entries : (entries none).Pairwise Compatible := by
  have methods : (entries none).Pairwise fun e e' => e.1 = e'.1 → e.2.1 ≠ e'.2.1 := by decide
  refine methods.imp_of_mem fun {e e'} listed listed' differ => ⟨differ, fun paths p hp q hq => ?_⟩
  exact PathPart.clash_of_apart (apart_entries e listed e' listed' paths p hp q hq)

theorem entries_perm (metricsPath : Option String) :
    (entries metricsPath).Perm
      (metricsPath.toList.map (fun path => (path, "GET", .metrics)) ++ entries none) :=
  (List.perm_append_comm.append_right services).trans (.of_eq (List.append_assoc _ _ _))

theorem mem_entries_iff :
    (path, method, endpoint) ∈ entries metricsPath ↔
      path ∈ metricsPath ∧ method = "GET" ∧ endpoint = .metrics ∨
        (path, method, endpoint) ∈ entries none := by
  rw [(entries_perm metricsPath).mem_iff, List.mem_append, List.mem_map]
  refine or_congr_left ⟨?_, ?_⟩
  · rintro ⟨listed, member, same⟩
    cases same
    exact ⟨Option.mem_toList.mp member, rfl, rfl⟩
  · rintro ⟨member, rfl, rfl⟩
    exact ⟨path, Option.mem_toList.mpr member, rfl⟩

theorem table_eq (metricsPath : Option String) :
    table metricsPath = addAll [] (entries metricsPath) := by
  simp only [entries, addAll, List.foldlM_append, bind_assoc]
  rfl

theorem tabled_of_table {routes : List Route} (made : table metricsPath = .ok routes) :
    Tabled (entries metricsPath) routes := by
  rw [table_eq] at made
  have served := tabled_addAll tabled_nil made
  rwa [List.nil_append] at served

theorem exists_table_iff :
    (∃ routes, table metricsPath = .ok routes) ↔ ∀ path ∈ metricsPath, HasRoom path := by
  have perm := entries_perm metricsPath
  rw [table_eq, exists_addAll_iff tabled_nil, perm.pairwise_iff (Std.Symm.symm _ _),
    List.pairwise_append]
  constructor
  · rintro ⟨readable, ⟨-, -, told⟩, -⟩ path here
    have member : (path, "GET", .metrics) ∈ entries metricsPath :=
      mem_entries_iff.mpr (.inl ⟨here, rfl, rfl⟩)
    have read : (PathPart.parse? path).isSome := readable (path, "GET", .metrics) member
    refine ⟨read, fun e listed => Std.Symm.symm _ _ (told _ ?_ e listed)⟩
    exact List.mem_map_of_mem (Option.mem_toList.mpr here)
  · intro room
    refine ⟨?_, ⟨?_, compatible_entries, ?_⟩, nofun⟩
    · rintro ⟨path, method, endpoint⟩ member
      rcases mem_entries_iff.mp member with ⟨here, -⟩ | fixed
      · exact (room path here).1
      · obtain ⟨_, parsed, -⟩ := exists_shape fixed
        rw [parsed]
        rfl
    · cases metricsPath with
      | none => exact .nil
      | some path => exact List.pairwise_singleton _ _
    · intro e metrics e' listed
      obtain ⟨path, here, rfl⟩ := List.mem_map.mp metrics
      exact Std.Symm.symm _ _ ((room path (Option.mem_toList.mp here)).2 e' listed)

/-- A path that holds no captures finds room unless something else is got there. -/
theorem hasRoom_iff_of_plain (slash : path.toList.head? = some '/') (plain : IsPlain path) :
    HasRoom path ↔ path ∉ ["/health", "/ready", "/v1/element-types"] := by
  have parsed := parse?_of_plain slash plain
  constructor
  · rintro ⟨-, compatible⟩ taken
    have got : ∀ path ∈ ["/health", "/ready", "/v1/element-types"],
        ∃ e ∈ entries none, e.1 = path ∧ e.2.1 = "GET" := by decide
    obtain ⟨e, listed, same, method⟩ := got path taken
    exact (compatible e listed).1 same method
  · intro free
    refine ⟨by rw [parsed]; rfl, fun e listed => ⟨?_, ?_⟩⟩
    · intro (same : e.1 = path) method
      have captures : ∀ e ∈ entries none, e.2.1 = "GET" →
          e.1 ∈ ["/health", "/ready", "/v1/element-types"] ∨ '\x7b' ∈ e.1.toList := by
        decide +kernel
      rcases captures e listed method with got | brace
      · exact free (same ▸ got)
      · exact plain.1 (same ▸ brace)
    · intro differ p hp q hq
      cases parsed.symm.trans hq
      refine Bool.eq_false_iff.mpr fun clashes => differ ?_
      rw [PathPart.clash_comm] at clashes
      have fixed := PathPart.eq_of_clash_fixed clashes
      rcases shape_of_parse? listed hp with ⟨literal, -⟩ | ⟨name, tail, about⟩
      · rw [literal] at fixed
        exact String.toList_inj.mp (PathPart.map_fixed_injective fixed)
      · have captures : PathPart.capture name ∈ path.toList.map PathPart.fixed := by
          rw [← fixed, about]
          exact List.mem_append_right _ List.mem_cons_self
        obtain ⟨_, -, differs⟩ := List.mem_map.mp captures
        cases differs

end Route

section

open Route PathPart

/-- The path of the metrics fits a path and has fixed text where those about inventories have the
id. -/
def Overtakes (metricsPath : Option String) (path : String) : Prop :=
  ∃ m ∈ metricsPath, ∃ c rest values,
    parse? m = some (beforeId.map fixed ++ fixed c :: rest) ∧
      capture? (beforeId.map fixed ++ fixed c :: rest) path.toList = some values

variable {metricsPath : Option String} {routes : List Route} {r : Request} {endpoint : Endpoint}
  {captured : List String}

/-- The route is in the table for the request: it has the path of the endpoint, and the endpoint for
the method. -/
structure Route.Own (route : Route) (routes : List Route) (r : Request) (endpoint : Endpoint)
    (captured : List String) : Prop where
  member : route ∈ routes
  fits : capture? route.pattern r.path.toList = some captured
  answers : route.endpoint? r.method = some endpoint
  shape : ∃ method, (route.path, method, endpoint) ∈ entries none

theorem exists_own (tabled : Tabled (entries metricsPath) routes)
    (serves : endpoint.Serves none r captured) :
    ∃ route : Route, route.Own routes r endpoint captured := by
  obtain ⟨path, pattern, listed, parsed, fits⟩ := serves
  obtain ⟨route, member, rfl, answers⟩ := tabled.served _ _ _ (mem_entries_iff.mpr (.inr listed))
  cases parsed.symm.trans (tabled.among route member).pattern
  exact ⟨route, member, fits, answers, _, listed⟩

/-- Only the metrics can stand beside the own route of a request. -/
theorem Route.Own.rival {route : Route} (own : route.Own routes r endpoint captured)
    (tabled : Tabled (entries metricsPath) routes) {other : Route} (member : other ∈ routes)
    (differ : other ≠ route) {us : List String}
    (fits : capture? other.pattern r.path.toList = some us) :
    other.path ∈ metricsPath ∧
      (precedes route.pattern other.pattern = true ∨
        precedes other.pattern route.pattern = true) := by
  obtain ⟨paths, patterns⟩ := tabled.distinct.forall own.member member differ.symm
  refine ⟨?_, precedes_of_fits own.fits fits patterns⟩
  obtain ⟨method, endpoint', listed⟩ := tabled.exists_listed member
  rcases mem_entries_iff.mp listed with ⟨here, -⟩ | fixed
  · exact here
  · obtain ⟨_, listed'⟩ := own.shape
    have apart := apart_entries _ listed' _ fixed paths _ (tabled.among route own.member).pattern _
      (tabled.among other member).pattern
    rw [not_fits_of_apart apart own.fits] at fits
    cases fits

/-- A route is found for its requests as long as the metrics do not overtake it. -/
theorem Route.Own.find?_eq {route : Route} (own : route.Own routes r endpoint captured)
    (tabled : Tabled (entries metricsPath) routes) (free : ¬ Overtakes metricsPath r.path) :
    find? routes r.path = some (route, captured) := by
  refine find?_of_precedes own.member own.fits fun other member differ us fits => ?_
  obtain ⟨here, before | after⟩ := own.rival tabled member differ fits
  · exact before
  · refine absurd ?_ free
    obtain ⟨_, listed⟩ := own.shape
    have parsed := (tabled.among other member).pattern
    rcases shape_of_parse? listed (tabled.among route own.member).pattern with
      ⟨literal, -⟩ | ⟨name, tail, about⟩
    · rw [literal, precedes_fixed] at after
      cases after
    · have fits' := own.fits
      rw [about] at fits' after
      obtain ⟨c, rest, shape⟩ := eq_of_precedes_capture fits fits' after
      rw [shape] at parsed fits
      exact ⟨_, here, c, rest, us, parsed, fits⟩

/-- Behind the start of the paths about inventories, no route of the service has fixed text. -/
theorem not_listed_of_fixed {path method : String} {c : Char} {rest : List PathPart}
    (parsed : parse? path = some (beforeId.map fixed ++ fixed c :: rest)) :
    (path, method, endpoint) ∉ entries none := by
  intro listed
  rcases shape_of_parse? listed parsed with ⟨literal, other⟩ | ⟨name, tail, about⟩
  · obtain ⟨front, back, split, same, -⟩ := List.map_eq_append_iff.mp literal.symm
    refine other ⟨back, ?_⟩
    rw [split, ← map_fixed_injective same]
  · cases List.append_cancel_left about

theorem eq_metrics_of_lookup (tabled : Tabled (entries metricsPath) routes) {route : Route}
    (member : route ∈ routes) {c : Char} {rest : List PathPart}
    (parsed : parse? route.path = some (beforeId.map fixed ++ fixed c :: rest)) {method : String}
    (served : route.methods.lookup method = some endpoint) :
    method = "GET" ∧ endpoint = .metrics := by
  have listed := (tabled.among route member).methods _ (mem_methods_of_lookup served)
  rcases mem_entries_iff.mp listed with ⟨-, got⟩ | fixed
  · exact got
  · exact absurd fixed (not_listed_of_fixed parsed)

/-- Fixed text in the place of the id is before any route of the service. -/
theorem Route.Own.overtaken {route : Route} (own : route.Own routes r endpoint captured)
    (tabled : Tabled (entries metricsPath) routes) {c : Char} {rest : List PathPart}
    {values : List String}
    (fits : capture? (beforeId.map fixed ++ fixed c :: rest) r.path.toList = some values) :
    precedes (beforeId.map fixed ++ fixed c :: rest) route.pattern = true := by
  obtain ⟨_, listed⟩ := own.shape
  have fits' := own.fits
  rcases shape_of_parse? listed (tabled.among route own.member).pattern with
    ⟨literal, apart⟩ | ⟨name, tail, about⟩
  · -- the path starts like those about inventories, which the path of this route does not
    obtain ⟨ds, split, -⟩ := capture?_fixed fits
    rw [literal] at fits'
    exact absurd ⟨ds, by rw [← (eq_of_capture?_fixed fits').1, split]⟩ apart
  · rw [about, precedes_capture]

/-- Where the metrics overtake a route they are found instead, and answer what is got there. -/
theorem Route.Own.find?_metrics {route : Route} (own : route.Own routes r endpoint captured)
    (tabled : Tabled (entries metricsPath) routes) (overtakes : Overtakes metricsPath r.path) :
    ∃ (metrics : Route) (values : List String), find? routes r.path = some (metrics, values) ∧
      metrics.endpoint? r.method = if r.asked = "GET" then some .metrics else none := by
  obtain ⟨m, here, c, rest, values, parsed, fits⟩ := overtakes
  obtain ⟨metrics, member, rfl, answers⟩ :=
    tabled.served m "GET" .metrics (mem_entries_iff.mpr (.inl ⟨here, rfl, rfl⟩))
  have pattern := Option.some.inj ((tabled.among metrics member).pattern.symm.trans parsed)
  refine ⟨metrics, values, ?_, ?_⟩
  · rw [← pattern] at fits
    refine find?_of_precedes member fits fun other there differ us fits' => ?_
    by_cases same : other = route
    · rw [pattern] at fits ⊢
      exact same ▸ own.overtaken tabled fits
    · have elsewhere := (own.rival tabled there same fits').1
      have paths : metrics.path = other.path := Option.some.inj (here.symm.trans elsewhere)
      exact absurd (tabled.unique there member paths.symm) differ
  · change metrics.methods.lookup r.asked = _
    by_cases got : r.asked = "GET"
    · rw [if_pos got, got, answers]
    · rw [if_neg got]
      cases served : metrics.methods.lookup r.asked with
      | none => rfl
      | some other => exact absurd (eq_metrics_of_lookup tabled member parsed served).1 got

/-- What a request is answered by an endpoint. -/
def Service.reply {σ : Type} (service : Service σ) (moment : Mint.Moment) (r : Request)
    (captured : List String) (endpoint : Endpoint) (s : Mint.State σ) : Response × Mint.State σ :=
  let (response, t) := service.answer moment r captured endpoint s
  (if r.method == "HEAD" then response.withoutBody else response, t)

theorem Service.dispatch_of_found {σ : Type} {service : Service σ} {route : Route}
    (found : find? service.routes r.path = some (route, captured))
    (answers : route.endpoint? r.method = some endpoint) (moment : Mint.Moment) (s : Mint.State σ) :
    service.dispatch moment r s = service.reply moment r captured endpoint s := by
  rw [dispatch, found]
  dsimp only
  rw [answers]
  rfl

/-- Nothing is listed for the method at the route. -/
theorem Service.dispatch_of_unanswered {σ : Type} {service : Service σ} {route : Route}
    (found : find? service.routes r.path = some (route, captured))
    (unanswered : route.endpoint? r.method = none) (moment : Mint.Moment) (s : Mint.State σ) :
    (service.dispatch moment r s).1.status = 405 ∧ (service.dispatch moment r s).2 = s := by
  rw [dispatch, found]
  dsimp only
  rw [unanswered]
  exact ⟨rfl, rfl⟩

theorem head?_of_check {s : Settings} (accepted : s.check = .ok ()) :
    s.observability.metricsPath.toList.head? = some '/' := by
  have starts := (Settings.passed_of_check accepted).2
  rw [String.startsWith_string_iff] at starts
  obtain ⟨rest, split⟩ := starts
  rw [← split]
  rfl

/-- For all settings that pass their check: a table of routes is made if and only if the path of the
metrics finds room, which a path without captures does unless something else is got there. Every
request for a route of the service is then answered by the endpoint of this route, unless the
metrics overtake it. Where they do, they answer what is got, and any other method is turned down. -/
theorem accepted_settings_serve_what_is_not_overtaken {s : Settings} (accepted : s.check = .ok ()) :
    ((∃ routes, Route.table s.observability.metricsPath? = .ok routes) ↔
      ∀ path ∈ s.observability.metricsPath?, HasRoom path) ∧
    (∀ path ∈ s.observability.metricsPath?, IsPlain path →
      (HasRoom path ↔ path ∉ ["/health", "/ready", "/v1/element-types"])) ∧
    ∀ (σ : Type) (service : Service σ) (moment : Mint.Moment) (state : Mint.State σ) (r : Request)
      (captured : List String) (endpoint : Endpoint),
      Route.table s.observability.metricsPath? = .ok service.routes →
      endpoint.Serves none r captured →
      (¬ Overtakes s.observability.metricsPath? r.path →
        service.dispatch moment r state = service.reply moment r captured endpoint state) ∧
      (Overtakes s.observability.metricsPath? r.path →
        (r.asked = "GET" →
          service.dispatch moment r state = service.reply moment r captured .metrics state) ∧
        (r.asked ≠ "GET" →
          (service.dispatch moment r state).1.status = 405 ∧
            (service.dispatch moment r state).2 = state)) := by
  refine ⟨exists_table_iff, ?_, ?_⟩
  · intro path here plain
    refine hasRoom_iff_of_plain ?_ plain
    have slash := head?_of_check accepted
    unfold Settings.Observability.metricsPath? at here
    split at here
    · cases here
      exact slash
    · cases here
  · intro σ service moment state r captured endpoint made serves
    have tabled := tabled_of_table made
    obtain ⟨route, own⟩ := exists_own tabled serves
    constructor
    · intro free
      exact service.dispatch_of_found (own.find?_eq tabled free) own.answers moment state
    · intro overtakes
      obtain ⟨metrics, values, found, answers⟩ := own.find?_metrics tabled overtakes
      constructor
      · intro got
        rw [if_pos got] at answers
        exact Service.dispatch_of_found found answers moment state
      · intro other
        rw [if_neg other] at answers
        exact Service.dispatch_of_unanswered found answers moment state

/-- Settings of which only the path of the metrics is set pass their check if it starts with a
slash. -/
theorem check_metricsPath {path : String} (slash : "/".toList <+: path.toList) :
    Settings.check { observability := { metricsPath := path } } = .ok () := by
  have starts : path.startsWith "/" = true := String.startsWith_string_iff.mpr slash
  simp only [Settings.check, Settings.Stores.check, Settings.refuseIf, starts]
  rfl

/-- Settings that ask for the metrics at a path of one inventory. -/
def besideKegs : Settings :=
  { observability := { metricsPath := "/v1/inventories/kegs/sequence" } }

/-- Asks for the counter of an inventory. -/
def sequenceOf (inventory : String) : Request :=
  { method := "GET", target := "/v1/inventories/" ++ inventory ++ "/sequence" }

theorem serves_sequence {inventory : String} (fits :
    capture? (beforeId.map fixed ++ capture "inventory_id" :: "/sequence".toList.map fixed)
      (sequenceOf inventory).path.toList = some [inventory]) :
    Endpoint.sequence.Serves none (sequenceOf inventory) [inventory] := by
  have about : "sequence" ∈ Endpoint.sequence.ending? := rfl
  refine ⟨"/v1/inventories/\x7binventory_id\x7d/" ++ "sequence", _, ?_, ?_, fits⟩
  · change (_, "GET", Endpoint.sequence) ∈ _
    decide
  · exact Endpoint.parse?_ending about

theorem kegs_overtaken :
    Overtakes besideKegs.observability.metricsPath? (sequenceOf "kegs").path :=
  ⟨_, rfl, 'k', "egs/sequence".toList.map fixed, [], by decide, by decide⟩

theorem crates_not_overtaken :
    ¬ Overtakes besideKegs.observability.metricsPath? (sequenceOf "crates").path := by
  rintro ⟨m, here, c, rest, values, parsed, fits⟩
  cases here
  rw [parse?_of_plain (by decide) (by decide)] at parsed
  rw [← Option.some.inj parsed] at fits
  exact absurd (eq_of_capture?_fixed fits).1 (by decide)

theorem kegs_are_overtaken_crates_are_not :
    besideKegs.check = .ok () ∧
    ∃ routes, Route.table besideKegs.observability.metricsPath? = .ok routes ∧
      ∀ (σ : Type) (service : Service σ) (moment : Mint.Moment) (state : Mint.State σ),
        service.routes = routes →
        service.dispatch moment (sequenceOf "crates") state =
          service.reply moment (sequenceOf "crates") ["crates"] .sequence state ∧
        service.dispatch moment (sequenceOf "kegs") state =
          service.reply moment (sequenceOf "kegs") ["kegs"] .metrics state := by
  have accepted : besideKegs.check = .ok () := check_metricsPath (by decide)
  obtain ⟨made, plain, answered⟩ := accepted_settings_serve_what_is_not_overtaken accepted
  obtain ⟨routes, table⟩ := made.mpr fun path here =>
    (plain path here (by cases here; decide)).mpr (by cases here; decide)
  refine ⟨accepted, routes, table, ?_⟩
  rintro σ service moment state rfl
  have crates : Endpoint.sequence.Serves none (sequenceOf "crates") ["crates"] :=
    serves_sequence (by decide)
  have kegs : Endpoint.sequence.Serves none (sequenceOf "kegs") ["kegs"] :=
    serves_sequence (by decide)
  constructor
  · exact (answered σ service moment state _ _ _ table crates).1 crates_not_overtaken
  · exact ((answered σ service moment state _ _ _ table kegs).2 kegs_overtaken).1 rfl

/-- Settings that ask for the metrics where the health is asked for. -/
def atHealth : Settings := { observability := { metricsPath := "/health" } }

/-- A check of settings lets a path through that is taken, and one that hides the counter of an
inventory: of the first no table is made, and in that of the second the request for this counter
does not find its endpoint. -/
theorem accepted_settings_may_have_no_table :
    (atHealth.check = .ok () ∧
      Route.table atHealth.observability.metricsPath? = .error (.overlapping "GET" "/health")) ∧
    besideKegs.check = .ok () ∧ Endpoint.sequence.Serves none (sequenceOf "kegs") ["kegs"] ∧
      ∃ routes route values, Route.table besideKegs.observability.metricsPath? = .ok routes ∧
        find? routes (sequenceOf "kegs").path = some (route, values) ∧
        route.endpoint? "GET" = some .metrics := by
  have kegs : Endpoint.sequence.Serves none (sequenceOf "kegs") ["kegs"] :=
    serves_sequence (by decide)
  have room : ∀ path ∈ besideKegs.observability.metricsPath?, HasRoom path := by
    rintro path ⟨⟩
    exact (hasRoom_iff_of_plain (by decide) (by decide)).mpr (by decide)
  obtain ⟨routes, made⟩ := exists_table_iff.mpr room
  have tabled := tabled_of_table made
  obtain ⟨_, own⟩ := exists_own tabled kegs
  obtain ⟨route, values, found, answers⟩ := own.find?_metrics tabled kegs_overtaken
  refine ⟨⟨check_metricsPath (by decide), rfl⟩, check_metricsPath (by decide), kegs, ?_⟩
  exact ⟨routes, route, values, made, found, answers⟩

end

end Mintmark.Http
