import Mintmark.Proofs.Http.Resaving
import Mintmark.Proofs.Http.Routing
import Mintmark.Proofs.Mint.Effects

/-!
# What requests change

Over a store in memory a request has the effect that its method and its path announce, and only if
it is answered with success. All endpoints are gone through, with every way out: those that come
before the store is called, and those that leave what the store did undone.
-/

namespace Mintmark.Http

open Mint (Moment State AllOrNothing Uses inMemory store_after_harmless)
open Store

section

variable {σ α : Type} {s : State σ} {Q : σ → Prop}

/-- A request is answered with success, and then this is true of the store, or it leaves the store
as it was. -/
inductive Settled (s : State σ) (Q : σ → Prop) : Response × State σ → Prop
  | failure {response : Response} {t : State σ} (failed : response.isSuccess = false)
    (same : t.store = s.store) : Settled s Q (response, t)
  | success {response : Response} {t : State σ} (succeeded : response.isSuccess = true)
    (holds : Q t.store) : Settled s Q (response, t)

theorem le_status (r : Refusal) : 400 ≤ r.status := by
  cases r with
  | renderFailed finding =>
    rw [Refusal.status]
    split <;> decide
  | notConfigured | invalid | badRequest | notFound | storage => exact Nat.le_of_ble_eq_true rfl

theorem isSuccess_refused (r : Refusal) : (refused r).isSuccess = false := by
  have error : ¬ r.status < 300 := by
    have := le_status r
    omega
  rw [refused, Response.json, Response.isSuccess, decide_eq_false error, Bool.and_false]

theorem isSuccess_of_takenBody {r : Request} {response : Response}
    (answered : takenBody r = .error response) : response.isSuccess = false := by
  unfold takenBody at answered
  split at answered <;> cases answered
  rfl

theorem isSuccess_of_requiredDrafts {r : Request} {response : Response}
    (answered : requiredDrafts r = .error response) : response.isSuccess = false := by
  unfold requiredDrafts at answered
  split at answered
  · cases answered
    rfl
  · split at answered
    · cases answered
      rfl
    · split at answered
      · next tooLong =>
        cases answered
        exact isSuccess_of_takenBody tooLong
      · next body _ =>
        cases read : Json.Decoder.ofBytes decodeDrafts body with
        | ok drafts =>
          rw [read] at answered
          cases answered
        | error fault =>
          rw [read] at answered
          cases answered
          cases fault <;> rfl

theorem isSuccess_of_optionalDrafts {body : ByteArray} {response : Response}
    (answered : optionalDrafts body = .error response) : response.isSuccess = false := by
  unfold optionalDrafts at answered
  split at answered
  · cases answered
  · cases read : Json.Decoder.ofBytes decodeOptionalDrafts body with
    | ok drafts =>
      rw [read] at answered
      cases answered
    | error fault =>
      rw [read] at answered
      cases answered
      cases fault <;> exact isSuccess_refused _

theorem isSuccess_of_capturedText {captured : List String} {response : Response}
    (answered : capturedText captured = .error response) : response.isSuccess = false := by
  unfold capturedText at answered
  split at answered <;> cases answered
  rfl

theorem isSuccess_of_inventoryId {text : String} {response : Response}
    (answered : inventoryId text = .error response) : response.isSuccess = false := by
  unfold inventoryId at answered
  cases parsed : InventoryId.parse text with
  | error fault =>
    rw [parsed] at answered
    cases answered
    exact isSuccess_refused _
  | ok id =>
    rw [parsed] at answered
    cases answered

theorem settled_run {action : Mint.Action σ α} {answer : α → Response}
    (holds : AllOrNothing s Q (action s)) (succeeds : ∀ a, (answer a).isSuccess = true) :
    Settled s Q (run action answer s) := by
  unfold run
  rcases made : action s with ⟨refusal | a, t⟩ <;> rw [made] at holds
  · cases holds with
    | nothing same => exact .failure (isSuccess_refused refusal) same
  · cases holds with
    | all holds => exact .success (succeeds a) holds

theorem settled_check {checked : Except Response α} {next : α → State σ → Response × State σ}
    (refuses : ∀ response, checked = .error response → response.isSuccess = false)
    (goes : ∀ a, checked = .ok a → Settled s Q (next a s)) :
    Settled s Q (check checked next s) := by
  unfold check
  cases checked with
  | error response => exact .failure (refuses response rfl) rfl
  | ok a => exact goes a rfl

theorem settled_withId {captured : List String} {next : InventoryId → State σ → Response × State σ}
    (goes : ∀ id, Names captured id → Settled s Q (next id s)) :
    Settled s Q (withId captured next s) :=
  settled_check (fun _ => isSuccess_of_capturedText) fun text captures =>
    settled_check (fun _ => isSuccess_of_inventoryId) fun id parses =>
      goes id ⟨text, captures, parses⟩

/-- The drafts that a request brings along, if its body is taken in. -/
def Brings (r : Request) (drafts : Option (List Draft)) : Prop :=
  ∃ body, takenBody r = .ok body ∧ optionalDrafts body = .ok drafts

theorem settled_withIdAndDrafts {captured : List String} {r : Request}
    {next : InventoryId → Option (List Draft) → State σ → Response × State σ}
    (goes : ∀ id drafts, Names captured id → Brings r drafts → Settled s Q (next id drafts s)) :
    Settled s Q (withIdAndDrafts captured r next s) :=
  settled_check (fun _ => isSuccess_of_capturedText) fun text captures =>
    settled_check (fun _ => isSuccess_of_takenBody) fun body taken =>
      settled_check (fun _ => isSuccess_of_inventoryId) fun id parses =>
        settled_check (fun _ => isSuccess_of_optionalDrafts) fun drafts given =>
          goes id drafts ⟨text, captures, parses⟩ ⟨body, taken, given⟩

end

section

variable {start : UInt64} {moment : Moment} {r : Request} {captured : List String} {m n : Memory}

/-- What an endpoint does to a store in memory when it answers with success. -/
def Endpoint.Effect (start : UInt64) (moment : Moment) (r : Request) (captured : List String)
    (m n : Memory) : Endpoint → Prop
  | .putLayout =>
    ∃ id drafts layout, Names captured id ∧ requiredDrafts r = .ok drafts ∧
      Layout.ofDrafts drafts = .ok layout ∧ n.counters = m.counters ∧
      n.layouts.find? = Function.update m.layouts.find? id (some (moment.record id layout))
  | .deleteLayout =>
    ∃ id, Names captured id ∧ m.layouts.find? id ≠ none ∧ n.counters = m.counters ∧
      n.layouts.find? = Function.update m.layouts.find? id none
  | .generate =>
    ∃ id drafts layout, Names captured id ∧ Brings r drafts ∧ Uses m id drafts layout ∧
      ((∃ e ∈ layout.elements, e.kind = .sequence) → m.Taken id start n) ∧
      ((∀ e ∈ layout.elements, e.kind ≠ .sequence) → n = m)
  | .health | .ready | .metrics | .elementTypes | .validate | .preview | .getLayout | .previewFor
  | .sequence => n = m

variable {service : Service Memory} {s : State Memory}

theorem settled_harmless {Q : Memory → Prop} {α : Type} {action : Mint.Action Memory α}
    {answer : α → Response} (same : (action s).2.store = s.store)
    (succeeds : ∀ a, (answer a).isSuccess = true) (holds : Q s.store) :
    Settled s Q (run action answer s) :=
  settled_run (Mint.allOrNothing_of_store_eq same holds) succeeds

theorem settled_answer (mint : service.mint = inMemory start) (room : start ≠ Counter.maxValue)
    (moment : Moment) (r : Request) (captured : List String) (endpoint : Endpoint) :
    Settled s (fun n => endpoint.Effect start moment r captured s.store n)
      (service.answer moment r captured endpoint s) := by
  have harmless (request : Mint.Request) (able : request.isHarmless = true) :
      ((inMemory start).after s request).store = s.store := store_after_harmless able start s
  cases endpoint with
  | health | elementTypes => exact .success rfl rfl
  | ready =>
    simp only [Service.answer, mint]
    exact .success rfl rfl
  | metrics =>
    simp only [Service.answer, Service.metrics]
    cases service.recording with
    | true => exact .success rfl rfl
    | false => exact .failure rfl rfl
  | validate =>
    apply settled_check fun _ => isSuccess_of_requiredDrafts
    intro drafts _
    exact settled_harmless (harmless (.validate drafts) rfl) (fun _ => rfl) rfl
  | preview =>
    apply settled_check fun _ => isSuccess_of_requiredDrafts
    intro drafts _
    rw [mint]
    exact settled_harmless (harmless (.preview moment drafts) rfl) (fun _ => rfl) rfl
  | getLayout =>
    apply settled_withId
    intro id _
    rw [mint]
    exact settled_harmless (harmless (.stored id) rfl) (fun _ => rfl) rfl
  | previewFor =>
    apply settled_withIdAndDrafts
    intro id drafts _ _
    rw [mint]
    exact settled_harmless (harmless (.previewFor moment id drafts) rfl) (fun _ => rfl) rfl
  | sequence =>
    apply settled_withId
    intro id _
    rw [mint]
    exact settled_harmless (harmless (.sequence id) rfl) (fun _ => rfl) rfl
  | putLayout =>
    apply settled_check fun _ => isSuccess_of_capturedText
    intro text captures
    apply settled_check fun _ => isSuccess_of_requiredDrafts
    intro drafts given
    apply settled_check fun _ => isSuccess_of_inventoryId
    intro id parses
    rw [mint]
    refine settled_run ?_ fun _ => rfl
    apply (Mint.allOrNothing_save start moment id drafts s).imp
    rintro n ⟨layout, described, counters, layouts⟩
    exact ⟨id, drafts, layout, ⟨text, captures, parses⟩, given, described, counters, layouts⟩
  | deleteLayout =>
    apply settled_withId
    intro id names
    rw [mint]
    refine settled_run ?_ fun _ => rfl
    exact (Mint.allOrNothing_delete start id s).imp fun n effect => ⟨id, names, effect⟩
  | generate =>
    apply settled_withIdAndDrafts
    intro id drafts names brings
    rw [mint]
    refine settled_run ?_ fun _ => rfl
    apply (Mint.allOrNothing_generate room moment id drafts).imp
    rintro n ⟨layout, uses, effect⟩
    exact ⟨id, drafts, layout, names, brings, uses, effect⟩

/-- What a request announces, by its answer, its method and its path. -/
structure DeclaredEffect (start : UInt64) (moment : Moment) (r : Request) (response : Response)
    (m n : Memory) : Prop where
  failure : response.isSuccess = false → n = m
  put : response.isSuccess = true → r.method = "PUT" →
    ∃ id drafts layout, r.Reaches "custom-id" id ∧ requiredDrafts r = .ok drafts ∧
      Layout.ofDrafts drafts = .ok layout ∧ n.counters = m.counters ∧
      n.layouts.find? = Function.update m.layouts.find? id (some (moment.record id layout))
  delete : response.isSuccess = true → r.method = "DELETE" →
    ∃ id, r.Reaches "custom-id" id ∧ m.layouts.find? id ≠ none ∧ n.counters = m.counters ∧
      n.layouts.find? = Function.update m.layouts.find? id none
  generate : response.isSuccess = true → r.method = "POST" →
    ∀ id, r.Reaches "custom-id/generate" id → n.layouts = m.layouts ∧
      ∃ drafts layout, Brings r drafts ∧ Uses m id drafts layout ∧
        ((∃ e ∈ layout.elements, e.kind = .sequence) → m.Taken id start n) ∧
        ((∀ e ∈ layout.elements, e.kind ≠ .sequence) → n = m)
  other : response.isSuccess = true → r.method ≠ "PUT" → r.method ≠ "DELETE" →
    (r.method = "POST" → ∀ id, ¬ r.Reaches "custom-id/generate" id) → n = m

theorem DeclaredEffect.of_eq {response : Response}
    (unable : response.isSuccess = true → r.method ≠ "PUT" ∧ r.method ≠ "DELETE" ∧
      (r.method = "POST" → ∀ id, ¬ r.Reaches "custom-id/generate" id)) :
    DeclaredEffect start moment r response m m where
  failure _ := rfl
  put succeeded method := absurd method (unable succeeded).1
  delete succeeded method := absurd method (unable succeeded).2.1
  generate succeeded method id reaches := absurd reaches ((unable succeeded).2.2 method id)
  other _ _ _ _ := rfl

variable {metricsPath : Option String} {endpoint : Endpoint} {id : InventoryId} {ending : String}

/-- The method of a request that an endpoint answers. -/
theorem method_of_serves (serves : endpoint.Serves metricsPath r captured) :
    r.method = endpoint.method ∨ (r.method = "HEAD" ∧ endpoint.method = "GET") := by
  have asked := asked_of_serves serves
  unfold Request.asked at asked
  split at asked
  · next head => exact .inr ⟨beq_iff_eq.mp head, asked.symm⟩
  · exact .inl asked

theorem reaches_of_names (serves : endpoint.Serves metricsPath r captured)
    (about : ending ∈ endpoint.ending?) (names : Names captured id) : r.Reaches ending id := by
  obtain ⟨raw, rfl, path, slashless⟩ := captured_of_serves serves about
  obtain ⟨text, captures, parses⟩ := names
  refine ⟨raw, path, slashless, ?_⟩
  have decoded : Net.Percent.decode? raw = some text := by
    unfold capturedText at captures
    split at captures <;> cases captures
    assumption
  have text_eq : id.text = text := by
    cases parsed : InventoryId.parse text with
    | error fault =>
      rw [inventoryId, parsed] at parses
      cases parses
    | ok found =>
      rw [inventoryId, parsed] at parses
      cases parses
      exact InventoryId.text_of_parse parsed
  rw [decoded, text_eq]

/-- Where an id is captured, the path tells which. -/
theorem eq_of_reaches (serves : endpoint.Serves metricsPath r captured)
    (about : ending ∈ endpoint.ending?) (names : Names captured id) {other : InventoryId}
    {end' : String} (reaches : r.Reaches end' other) : ending = end' ∧ id = other := by
  obtain ⟨raw, path, slashless, decoded⟩ := reaches_of_names serves about names
  obtain ⟨same, decoded'⟩ := reaches.unique path slashless
  refine ⟨same, InventoryId.text_inj.mp ?_⟩
  rw [decoded] at decoded'
  exact Option.some.inj decoded'

theorem method_eq (serves : endpoint.Serves metricsPath r captured)
    (bodied : endpoint.method ≠ "GET") : r.method = endpoint.method := by
  rcases method_of_serves serves with same | ⟨-, get⟩
  · exact same
  · exact absurd get bodied

theorem method_ne (serves : endpoint.Serves metricsPath r captured) {method : String}
    (away : endpoint.method ≠ method) (bodied : method ≠ "HEAD") : r.method ≠ method := by
  rintro rfl
  rcases method_of_serves serves with same | ⟨head, -⟩
  · exact away same.symm
  · exact bodied head

/-- No endpoint but the one for identifiers answers a POST at its path. -/
theorem eq_generate_of_reaches (serves : endpoint.Serves metricsPath r captured)
    (method : r.method = "POST") (reaches : r.Reaches "custom-id/generate" id) :
    endpoint = .generate := by
  have posted : endpoint.method = "POST" := by
    by_contra away
    exact method_ne serves away (by decide) method
  cases endpoint with
  | generate => rfl
  | previewFor =>
    obtain ⟨raw, -, path, slashless⟩ := captured_of_serves serves rfl
    exact absurd (reaches.unique path slashless).1 (by decide)
  | validate | preview =>
    obtain ⟨raw, path, -⟩ := reaches
    have front := congrArg (fun path => path.toList.take 6)
      ((path_of_serves serves rfl).symm.trans path)
    simp [String.toList_append] at front
  | health | ready | metrics | elementTypes | getLayout | putLayout | deleteLayout | sequence =>
    exact absurd posted (by decide)

theorem declared_of_effect (serves : endpoint.Serves metricsPath r captured) {response : Response}
    (succeeded : response.isSuccess = true)
    (effect : endpoint.Effect start moment r captured m n) :
    DeclaredEffect start moment r response m n := by
  have failure (failed : response.isSuccess = false) : n = m := by
    rw [succeeded] at failed
    cases failed
  cases endpoint with
  | putLayout =>
    obtain ⟨id, drafts, layout, names, effect⟩ := effect
    have method : r.method = "PUT" := method_eq serves (by decide)
    refine ⟨failure, ?_, ?_, ?_, fun _ away => absurd method away⟩
    · exact fun _ _ => ⟨id, drafts, layout, reaches_of_names serves rfl names, effect⟩
    · exact fun _ delete => absurd delete (method_ne serves (by decide) (by decide))
    · exact fun _ post => absurd post (method_ne serves (by decide) (by decide))
  | deleteLayout =>
    obtain ⟨id, names, effect⟩ := effect
    have method : r.method = "DELETE" := method_eq serves (by decide)
    refine ⟨failure, ?_, ?_, ?_, fun _ _ away => absurd method away⟩
    · exact fun _ put => absurd put (method_ne serves (by decide) (by decide))
    · exact fun _ _ => ⟨id, reaches_of_names serves rfl names, effect⟩
    · exact fun _ post => absurd post (method_ne serves (by decide) (by decide))
  | generate =>
    obtain ⟨id, drafts, layout, names, brings, uses, taken, untaken⟩ := effect
    have method : r.method = "POST" := method_eq serves (by decide)
    have reaches : r.Reaches "custom-id/generate" id := reaches_of_names serves rfl names
    refine ⟨failure, ?_, ?_, ?_, fun _ _ _ away => absurd reaches (away method id)⟩
    · exact fun _ put => absurd put (method_ne serves (by decide) (by decide))
    · exact fun _ delete => absurd delete (method_ne serves (by decide) (by decide))
    · intro _ _ other reaches'
      obtain ⟨-, rfl⟩ := eq_of_reaches serves rfl names reaches'
      refine ⟨?_, drafts, layout, brings, uses, taken, untaken⟩
      by_cases shown : ∃ e ∈ layout.elements, e.kind = .sequence
      · exact (taken shown).layouts
      · push Not at shown
        rw [untaken shown]
  | health | ready | metrics | elementTypes | validate | preview | getLayout | previewFor
  | sequence =>
    cases effect
    refine .of_eq fun _ => ⟨method_ne serves (by decide) (by decide),
      method_ne serves (by decide) (by decide), fun method id reaches => ?_⟩
    cases eq_generate_of_reaches serves method reaches

/-- A request has its declared effect, whatever the store. -/
theorem declared_handle (mint : service.mint = inMemory start) (room : start ≠ Counter.maxValue)
    (routes : Route.table metricsPath = .ok service.routes) (moment : Moment) (newId : Guid)
    (r : Request) :
    DeclaredEffect start moment r (service.handle moment newId r s).1 s.store
      (service.handle moment newId r s).2.store := by
  unfold Service.handle
  split
  · next options =>
    have method : r.method = "OPTIONS" := beq_iff_eq.mp options
    refine .of_eq fun _ => ?_
    rw [method]
    exact ⟨by decide, by decide, fun post => absurd post (by decide)⟩
  · have cases := Service.dispatch_cases routes moment r s
    rcases done : service.dispatch moment r s with ⟨response, t⟩
    rw [done] at cases
    rcases cases with ⟨failed, same⟩ | ⟨captured, endpoint, serves, succeeds, same⟩
    · cases same
      exact .of_eq fun (succeeded : response.isSuccess = true) =>
        absurd (failed.symm.trans succeeded) (by decide)
    · have settled := settled_answer (s := s) mint room moment r captured endpoint
      rcases answered : service.answer moment r captured endpoint s with ⟨answer, u⟩
      rw [answered] at settled succeeds same
      cases same
      cases settled with
      | failure failed kept =>
        dsimp only
        rw [kept]
        exact .of_eq fun (succeeded : response.isSuccess = true) =>
          absurd (failed.symm.trans (succeeds.symm.trans succeeded)) (by decide)
      | success succeeded effect =>
        exact declared_of_effect serves (succeeds.trans succeeded) effect

/-- A request as it arrives, with the id it is given unless it brings its own. -/
structure Arrival where
  moment : Moment
  newId : Guid
  request : Request

/-- The state after some requests, one after another. -/
def Service.serve (service : Service Memory) (arrivals : List Arrival) (s : State Memory) :
    State Memory :=
  arrivals.foldl (fun s a => (service.handle a.moment a.newId a.request s).2) s

/-- Whatever the store held at first and whatever requests have been handled since, the next one
changes only what it declares. The start value may be any but the greatest, from which nothing could
be given out. -/
theorem requests_have_their_declared_effect (mint : service.mint = inMemory start)
    (room : start ≠ Counter.maxValue) (routes : Route.table metricsPath = .ok service.routes)
    (arrivals : List Arrival) (moment : Moment) (newId : Guid) (r : Request) :
    let reached := service.serve arrivals s
    let handled := service.handle moment newId r reached
    DeclaredEffect start moment r handled.1 reached.store handled.2.store := by
  exact declared_handle mint room routes moment newId r

end

/-- A service with all its routes. -/
def openDepot : Service Memory :=
  { mint := inMemory 1
    routes := (Route.table (some "/metrics")).toOption.getD []
    recording := true }

/-- The layout of an inventory is put. -/
def delivery : Arrival where
  moment := evening
  newId := ⟨0⟩
  request :=
    { method := "PUT", target := "/v1/inventories/pallets/custom-id"
      headers := [("content-type", "application/json")]
      body :=
        "\x7b\"elements\":[\x7b\"elementType\":\"SEQUENCE\",\"format\":\"D4\"\x7d]\x7d".toUTF8 }

/-- An identifier is asked for. -/
def numbering : Request :=
  { method := "POST", target := "/v1/inventories/pallets/custom-id/generate" }

/-- The layout is saved and an identifier made with it, which takes the first value. -/
theorem numbering_has_its_declared_effect :
    numbering.Reaches "custom-id/generate" Mint.pallets ∧
    let opened : State Memory := { store := .empty }
    let reached := openDepot.serve [delivery] opened
    let handled := openDepot.handle evening ⟨1⟩ numbering reached
    ((openDepot.handle evening ⟨0⟩ delivery.request opened).1.status = 200 ∧
        handled.1.status = 200 ∧
        reached.store.counters.find? Mint.pallets = none ∧
        (handled.2.store.counters.find? Mint.pallets).map (·.next) = some 2) ∧
      DeclaredEffect 1 evening numbering handled.1 reached.store handled.2.store := by
  have routes : Route.table (some "/metrics") = .ok openDepot.routes := rfl
  refine ⟨⟨"pallets", by cbv, by decide, by cbv⟩, by decide +kernel, ?_⟩
  exact requests_have_their_declared_effect rfl (by decide) routes [delivery] evening ⟨1⟩ numbering

end Mintmark.Http
