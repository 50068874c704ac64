import Mathlib.Data.List.Basic
import Mintmark.Http.Api
import Mintmark.Proofs.Json.Decoded

/-!
# What requests reach

A table of routes holds only what was added to it, so an endpoint that answers a request was listed
under the path and the method of the request. Captured text has no slash in it, so a path tells what
was captured.
-/

namespace Mintmark.Http

namespace Route

/-- All that is added to a table. -/
def entries (metricsPath : Option String) : List (String × String × Endpoint) :=
  [("/health", "GET", .health), ("/ready", "GET", .ready)] ++
    metricsPath.toList.map (fun path => (path, "GET", .metrics)) ++ services

/-- The route has the pattern of its path, and only endpoints that were listed for it. -/
structure Among (listed : List (String × String × Endpoint)) (r : Route) : Prop where
  pattern : PathPart.parse? r.path = some r.pattern
  methods : ∀ m ∈ r.methods, (r.path, m.1, m.2) ∈ listed

variable {listed more : List (String × String × Endpoint)} {routes routes' : List Route}
  {path method : String} {endpoint : Endpoint}

theorem among_of_add (among : ∀ r ∈ routes, r.Among listed)
    (member : (path, method, endpoint) ∈ listed)
    (made : add routes path method endpoint = .ok routes') : ∀ r ∈ routes', r.Among listed := by
  unfold add at made
  cases parsed : PathPart.parse? path with
  | none =>
    rw [parsed] at made
    cases made
  | some pattern =>
    rw [parsed] at made
    dsimp only at made
    split at made
    · split at made
      · cases made
      · cases made
        intro r there
        obtain ⟨old, before, rfl⟩ := List.mem_map.mp there
        have kept := among old before
        split
        · next same =>
          refine ⟨kept.pattern, fun m here => ?_⟩
          rcases List.mem_append.mp here with here | here
          · exact kept.methods m here
          · rw [List.mem_singleton.mp here, beq_iff_eq.mp same]
            exact member
        · exact kept
    · split at made
      · cases made
      · cases made
        intro r there
        rcases List.mem_append.mp there with before | new
        · exact among r before
        · rw [List.mem_singleton.mp new]
          refine ⟨parsed, fun m here => ?_⟩
          rw [List.mem_singleton.mp here]
          exact member

theorem among_of_addAll (subset : ∀ e ∈ more, e ∈ listed)
    (made : addAll routes more = .ok routes') (among : ∀ r ∈ routes, r.Among listed) :
    ∀ r ∈ routes', r.Among listed := by
  have step (e : String × String × Endpoint) (member : e ∈ more) (before after : List Route)
      (added : add before e.1 e.2.1 e.2.2 = .ok after) (among : ∀ r ∈ before, r.Among listed) :
      ∀ r ∈ after, r.Among listed := among_of_add among (subset e member) added
  exact keeps_foldlM (P := fun routes => ∀ r ∈ routes, r.Among listed) step made among

theorem among_of_table {metricsPath : Option String} (made : table metricsPath = .ok routes) :
    ∀ r ∈ routes, r.Among (entries metricsPath) := by
  obtain ⟨first, one, made⟩ := exists_of_bind made
  obtain ⟨second, two, made⟩ := exists_of_bind made
  have none : ∀ r ∈ ([] : List Route), r.Among (entries metricsPath) :=
    fun _ member => absurd member List.not_mem_nil
  apply among_of_addAll _ made
  · apply among_of_addAll _ two
    · apply among_of_addAll _ one none
      intro e member
      exact List.mem_append_left _ (List.mem_append_left _ member)
    · intro e member
      exact List.mem_append_left _ (List.mem_append_right _ member)
  · intro e member
    exact List.mem_append_right _ member

/-- What a fold chooses from a list is in the list. -/
theorem mem_of_foldl {α : Type} {choose : Option α → α → Option α}
    (chooses : ∀ best a, choose best a = best ∨ choose best a = some a) {as : List α}
    {best : Option α} {a : α} (found : as.foldl choose best = some a) : best = some a ∨ a ∈ as := by
  induction as generalizing best with
  | nil => exact .inl found
  | cons next as ih =>
    rcases ih found with here | behind
    · rcases chooses best next with same | new
      · exact .inl (same.symm.trans here)
      · have same : next = a := Option.some.inj (new.symm.trans here)
        exact .inr (same ▸ List.mem_cons_self)
    · exact .inr (List.mem_cons_of_mem _ behind)

/-- The routes of a table that fit a path, with what they capture there. -/
def fitting (routes : List Route) (path : String) : List (Route × List String) :=
  routes.filterMap fun r => (PathPart.capture? r.pattern path.toList).map (r, ·)

/-- Which one of two fitting routes is kept. -/
def prefer (best : Option (Route × List String)) (next : Route × List String) :
    Option (Route × List String) :=
  match best with
  | none => some next
  | some (route, values) => if isBefore next.1 route then some next else some (route, values)

theorem find?_eq (routes : List Route) (path : String) :
    find? routes path = (fitting routes path).foldl prefer none := rfl

theorem prefer_cases (best : Option (Route × List String)) (next : Route × List String) :
    prefer best next = best ∨ prefer best next = some next := by
  cases best with
  | none => exact .inr rfl
  | some held =>
    rw [prefer]
    split
    · exact .inr rfl
    · exact .inl rfl

theorem mem_fitting_iff {r : Route} {captured : List String} :
    (r, captured) ∈ fitting routes path ↔
      r ∈ routes ∧ PathPart.capture? r.pattern path.toList = some captured := by
  simp only [fitting, List.mem_filterMap, Option.map_eq_some_iff, Prod.mk.injEq]
  constructor
  · rintro ⟨other, there, values, captures, rfl, rfl⟩
    exact ⟨there, captures⟩
  · rintro ⟨there, captures⟩
    exact ⟨r, there, captured, captures, rfl, rfl⟩

/-- The route that is found is one of the table, and its pattern fits. -/
theorem mem_of_find? {r : Route} {captured : List String}
    (found : find? routes path = some (r, captured)) :
    r ∈ routes ∧ PathPart.capture? r.pattern path.toList = some captured :=
  mem_fitting_iff.mp ((mem_of_foldl prefer_cases found).resolve_left nofun)

theorem mem_methods_of_lookup {r : Route} (found : r.methods.lookup method = some endpoint) :
    (method, endpoint) ∈ r.methods := by
  obtain ⟨front, back, split, -⟩ := List.lookup_eq_some_iff.mp found
  rw [split]
  exact List.mem_append_right _ List.mem_cons_self

theorem mem_of_endpoint? {r : Route} (found : r.endpoint? method = some endpoint) :
    (if method == "HEAD" then "GET" else method, endpoint) ∈ r.methods :=
  mem_methods_of_lookup found

end Route

namespace PathPart

variable {pre tail cs : List Char} {rest : List PathPart} {captured : List String} {name : String}

theorem capture?_fixed (captures : capture? (pre.map fixed ++ rest) cs = some captured) :
    ∃ ds, cs = pre ++ ds ∧ capture? rest ds = some captured := by
  induction pre generalizing cs with
  | nil => exact ⟨cs, rfl, captures⟩
  | cons c pre ih =>
    cases cs with
    | nil => cases captures
    | cons d cs =>
      rw [List.map_cons, List.cons_append, capture?] at captures
      split at captures
      · next same =>
        obtain ⟨ds, rfl, rest⟩ := ih captures
        exact ⟨ds, by rw [same]; rfl, rest⟩
      · cases captures

/-- Fixed text fits no other path, and captures nothing. -/
theorem eq_of_capture?_fixed (captures : capture? (pre.map fixed) cs = some captured) :
    cs = pre ∧ captured = [] := by
  rw [← List.append_nil (pre.map fixed)] at captures
  obtain ⟨ds, split, nothing⟩ := capture?_fixed captures
  cases ds with
  | cons d ds => cases nothing
  | nil =>
    cases nothing
    exact ⟨by rw [split, List.append_nil], rfl⟩

/-- A capture in front of fixed text holds all before that text, which has no slash in it. -/
theorem capture?_capture (captures : capture? (capture name :: tail.map fixed) cs = some captured) :
    ∃ raw, cs = raw ++ tail ∧ '/' ∉ raw ∧ captured = [String.ofList raw] := by
  cases cs with
  | nil => cases captures
  | cons c cs =>
    obtain ⟨others, behind, same⟩ := Option.bind_eq_some_iff.mp captures
    cases same
    obtain ⟨split, rfl⟩ := eq_of_capture?_fixed behind
    refine ⟨(c :: cs).takeWhile (· != '/'), ?_, ?_, rfl⟩
    · rw [← split, List.takeWhile_append_dropWhile]
    · intro slash
      simpa using List.all_eq_true.mp List.all_takeWhile _ slash

/-- A capture between two fixed texts, of which the second starts with a slash. -/
theorem capture?_between
    (captures : capture? (pre.map fixed ++ capture name :: tail.map fixed) cs = some captured) :
    ∃ raw, cs = pre ++ raw ++ tail ∧ '/' ∉ raw ∧ captured = [String.ofList raw] := by
  obtain ⟨ds, rfl, behind⟩ := capture?_fixed captures
  obtain ⟨raw, rfl, slashless, held⟩ := capture?_capture behind
  exact ⟨raw, by rw [List.append_assoc], slashless, held⟩

end PathPart

namespace Endpoint

def method : Endpoint → String
  | putLayout => "PUT"
  | deleteLayout => "DELETE"
  | validate | preview | previewFor | generate => "POST"
  | health | ready | metrics | elementTypes | getLayout | sequence => "GET"

/-- How the path ends, behind the id, for an endpoint that is about one inventory. -/
def ending? : Endpoint → Option String
  | getLayout | putLayout | deleteLayout => some "custom-id"
  | previewFor => some "custom-id/preview"
  | generate => some "custom-id/generate"
  | sequence => some "sequence"
  | health | ready | metrics | elementTypes | validate | preview => none

/-- The path of an endpoint that captures nothing and is not left to settings. -/
def path? : Endpoint → Option String
  | health => some "/health"
  | ready => some "/ready"
  | elementTypes => some "/v1/element-types"
  | validate => some "/v1/custom-id/validate"
  | preview => some "/v1/custom-id/preview"
  | metrics | getLayout | putLayout | deleteLayout | previewFor | generate | sequence => none

theorem parse?_path {endpoint : Endpoint} {path : String} (here : path ∈ endpoint.path?) :
    PathPart.parse? path = some (path.toList.map .fixed) := by
  cases endpoint <;> cases here <;> decide

theorem parse?_ending {endpoint : Endpoint} {ending : String} (here : ending ∈ endpoint.ending?) :
    PathPart.parse? ("/v1/inventories/{inventory_id}/" ++ ending) =
      some ("/v1/inventories/".toList.map .fixed ++ .capture "inventory_id" ::
        ("/" ++ ending).toList.map .fixed) := by
  cases endpoint <;> cases here <;> decide

/-- The endpoint is listed with its method and its path. -/
structure Listed (endpoint : Endpoint) (path method : String) : Prop where
  method : method = endpoint.method
  fixed : ∀ other ∈ endpoint.path?, path = other
  about : ∀ ending ∈ endpoint.ending?, path = "/v1/inventories/{inventory_id}/" ++ ending

theorem listed_of_mem_entries {metricsPath : Option String} {path method : String}
    {endpoint : Endpoint} (member : (path, method, endpoint) ∈ Route.entries metricsPath) :
    endpoint.Listed path method := by
  rw [Route.entries, List.mem_append, List.mem_append, List.mem_map] at member
  rcases member with (member | ⟨metrics, -, same⟩) | member
  · simp only [List.mem_cons, List.not_mem_nil, or_false, Prod.mk.injEq] at member
    rcases member with ⟨rfl, rfl, rfl⟩ | ⟨rfl, rfl, rfl⟩
    all_goals exact ⟨rfl, fun _ here => by cases here; rfl, nofun⟩
  · cases same
    exact ⟨rfl, nofun, nofun⟩
  · simp only [Route.services, List.mem_cons, List.not_mem_nil, or_false, Prod.mk.injEq] at member
    rcases member with ⟨rfl, rfl, rfl⟩ | ⟨rfl, rfl, rfl⟩ | ⟨rfl, rfl, rfl⟩ | ⟨rfl, rfl, rfl⟩ |
      ⟨rfl, rfl, rfl⟩ | ⟨rfl, rfl, rfl⟩ | ⟨rfl, rfl, rfl⟩ | ⟨rfl, rfl, rfl⟩ | ⟨rfl, rfl, rfl⟩
    all_goals
      exact ⟨rfl, fun _ here => by cases here <;> rfl, fun _ here => by cases here <;> rfl⟩

end Endpoint

/-- The method whose endpoint answers a request. -/
def Request.asked (r : Request) : String := if r.method == "HEAD" then "GET" else r.method

/-- The path of the request is that of an inventory with this ending, and its part in between stands
for the id. -/
def Request.Reaches (r : Request) (ending : String) (id : InventoryId) : Prop :=
  ∃ raw : String, r.path = "/v1/inventories/" ++ raw ++ "/" ++ ending ∧ '/' ∉ raw.toList ∧
    Net.Percent.decode? raw = some id.text

/-- The endpoint is listed for the request, with what is captured in its path. -/
def Endpoint.Serves (metricsPath : Option String) (r : Request) (captured : List String)
    (endpoint : Endpoint) : Prop :=
  ∃ path pattern, (path, r.asked, endpoint) ∈ Route.entries metricsPath ∧
    PathPart.parse? path = some pattern ∧ PathPart.capture? pattern r.path.toList = some captured

section

variable {metricsPath : Option String} {r : Request} {captured : List String} {endpoint : Endpoint}
  {ending : String} {id : InventoryId}

theorem asked_of_serves (serves : endpoint.Serves metricsPath r captured) :
    r.asked = endpoint.method := by
  obtain ⟨path, pattern, member, -⟩ := serves
  exact (Endpoint.listed_of_mem_entries member).method

theorem path_of_serves (serves : endpoint.Serves metricsPath r captured) {path : String}
    (fixed : path ∈ endpoint.path?) : r.path = path := by
  obtain ⟨listed, pattern, member, parsed, captures⟩ := serves
  rw [(Endpoint.listed_of_mem_entries member).fixed path fixed, Endpoint.parse?_path fixed]
    at parsed
  cases parsed
  exact String.toList_inj.mp (PathPart.eq_of_capture?_fixed captures).1

theorem captured_of_serves (serves : endpoint.Serves metricsPath r captured)
    (about : ending ∈ endpoint.ending?) :
    ∃ raw : String, captured = [raw] ∧ r.path = "/v1/inventories/" ++ raw ++ "/" ++ ending ∧
      '/' ∉ raw.toList := by
  obtain ⟨path, pattern, member, parsed, captures⟩ := serves
  rw [(Endpoint.listed_of_mem_entries member).about ending about, Endpoint.parse?_ending about]
    at parsed
  cases parsed
  obtain ⟨raw, split, slashless, held⟩ := PathPart.capture?_between captures
  refine ⟨String.ofList raw, held, ?_, ?_⟩
  · apply String.toList_inj.mp
    rw [split]
    simp
  · rw [String.toList_ofList]
    exact slashless

/-- Texts without a slash that end at the first one. -/
theorem eq_of_append_slash {xs xs' ys ys' : List Char} (slashless : '/' ∉ xs)
    (slashless' : '/' ∉ xs') (same : xs ++ '/' :: ys = xs' ++ '/' :: ys') :
    xs = xs' ∧ ys = ys' := by
  have front {zs zs' : List Char} (slashless : '/' ∉ zs) :
      (zs ++ '/' :: zs').takeWhile (· != '/') = zs := by
    rw [List.takeWhile_append_of_pos (by grind)]
    simp
  have first := congrArg (List.takeWhile (· != '/')) same
  rw [front slashless, front slashless'] at first
  subst first
  exact ⟨rfl, List.cons.inj (List.append_cancel_left same) |>.2⟩

/-- The path of a request tells the ending and the id. -/
theorem Request.Reaches.unique (reaches : r.Reaches ending id) {raw other : String}
    (path : r.path = "/v1/inventories/" ++ raw ++ "/" ++ other) (slashless : '/' ∉ raw.toList) :
    other = ending ∧ Net.Percent.decode? raw = some id.text := by
  obtain ⟨raw', path', slashless', decoded⟩ := reaches
  have chars := congrArg String.toList (path.symm.trans path')
  simp only [String.toList_append, List.append_assoc, List.append_cancel_left_eq] at chars
  obtain ⟨front, back⟩ := eq_of_append_slash slashless slashless' chars
  rw [String.toList_inj.mp front, String.toList_inj.mp back]
  exact ⟨rfl, decoded⟩

end

/-- A service answers by an endpoint of its table, or that there is none. -/
theorem Service.dispatch_cases {σ : Type} {service : Service σ} {metricsPath : Option String}
    (routes : Route.table metricsPath = .ok service.routes) (moment : Mint.Moment) (r : Request)
    (s : Mint.State σ) :
    ((service.dispatch moment r s).1.isSuccess = false ∧ (service.dispatch moment r s).2 = s) ∨
    ∃ captured endpoint, endpoint.Serves metricsPath r captured ∧
      (service.dispatch moment r s).1.isSuccess =
        (service.answer moment r captured endpoint s).1.isSuccess ∧
      (service.dispatch moment r s).2 = (service.answer moment r captured endpoint s).2 := by
  unfold dispatch
  split
  · exact .inl ⟨rfl, rfl⟩
  · next route captured found =>
    obtain ⟨member, captures⟩ := Route.mem_of_find? found
    have among := Route.among_of_table routes route member
    split
    · exact .inl ⟨rfl, rfl⟩
    · next endpoint chosen =>
      refine .inr ⟨captured, endpoint, ⟨route.path, route.pattern, ?_, among.pattern, captures⟩, ?_⟩
      · exact among.methods _ (Route.mem_of_endpoint? chosen)
      · rcases service.answer moment r captured endpoint s with ⟨response, t⟩
        dsimp only
        split <;> exact ⟨rfl, rfl⟩

end Mintmark.Http
