import Mintmark.Element.Catalogue
import Mintmark.Http.MediaType
import Mintmark.Http.Message
import Mintmark.Net.Percent
import Mintmark.Http.Routes
import Mintmark.Json.Bytes
import Mintmark.Mint.Service
import Mintmark.Wire

/-!
# The service over HTTP

Every endpoint checks what it was sent before it asks the mint: first that the captured id is text,
then the body where one is required, then the inventory id. Bodies are taken in up to a limit, and
only by the endpoints that have a use for them. Answers are wrapped in an envelope with a code, a
message and the data.
-/

namespace Mintmark.Http

open Json (Value)
open Mint (Moment State Action)

def version : String := "0.1.0"

/-- The envelope of an answer; without data the entry is left out. -/
def envelope (code : Nat) (message : String) (data : Option Value) : Value :=
  .object
    ([("code", .nat code), ("message", .string message)] ++
      (data.map fun data => ("data", data)).toList)

def success (data : Value) : Response := .json 200 (envelope 0 "success" (some data))

def findingToJson (f : Finding) : Value :=
  .object
    [("index", .optional .nat f.index), ("field", .optional (.string ·.name) f.field),
      ("kind", .string f.problem.name), ("code", .nat f.problem.code.number),
      ("message", .string f.problem.message)]

def refusalDetails : Refusal → Value
  | .invalid findings => .array (findings.map findingToJson)
  | .renderFailed finding => .array [findingToJson finding]
  | _ => .null

def refused (r : Refusal) : Response :=
  .json r.status (envelope r.code.number r.message (some (refusalDetails r)))

def entryToJson (e : CatalogueEntry) : Value :=
  .object
    [("element_type", .string e.kind.name), ("label", .string e.label),
      ("description", .string e.description), ("help_text", .string e.helpText),
      ("requires_value", .bool e.kind.requiresValue),
      ("requires_format", .bool e.kind.requiresFormat),
      ("max_occurrences", .optional .nat e.maxOccurrences),
      ("default_format", .optional .string e.kind.defaultFormat)]

def readiness (ready : Bool) : Response :=
  let data := .object [("ready", .bool ready), ("components", .object [("storage", .bool ready)])]
  if ready then success data
  else
    .json 503 (envelope Code.serviceUnavailable.number "service unavailable" (some data))

/-- How many bytes a body may have. -/
def bodyLimit : Nat := 2097152

/-- The body of a request whose endpoint takes it in. -/
def takenBody (r : Request) : Except Response ByteArray :=
  if r.body.size ≤ bodyLimit then .ok r.body
  else .error (.text 413 "Failed to buffer the request body: length limit exceeded")

/-- The body of a request whose JSON is required. -/
def requiredDrafts (r : Request) : Except Response (List Draft) :=
  match r.header? "content-type" with
  | none => .error unsupported
  | some contentType =>
    if !MediaType.isJson contentType then .error unsupported
    else
      match takenBody r with
      | .error tooLong => .error tooLong
      | .ok body =>
        (Json.Decoder.ofBytes decodeDrafts body).mapError fun
          | .grammar => .text 400 "Failed to parse the request body as JSON"
          | .data => .text 422 "Failed to deserialize the JSON body into the target type"
where
  unsupported := .text 415 "Expected request with \x60Content-Type: application/json\x60"

/-- The drafts in a body that may do without them. -/
def optionalDrafts (body : ByteArray) : Except Response (Option (List Draft)) :=
  if body.toList.all fun b => Text.isAsciiSpace (.ofUInt8 b) then .ok none
  else
    (Json.Decoder.ofBytes decodeOptionalDrafts body).mapError fun
      | .grammar => refused (.badRequest "invalid request body: malformed JSON")
      | .data => refused (.badRequest "invalid request body: unexpected value")

/-- The inventory id that was captured in the path. -/
def capturedText (captured : List String) : Except Response String :=
  match Net.Percent.decode? (captured.headD "") with
  | some text => .ok text
  | none => .error (.text 400 "Invalid URL: Invalid UTF-8 in \x60inventory_id\x60")

def inventoryId (text : String) : Except Response InventoryId :=
  (InventoryId.parse text).mapError fun fault => refused (.badRequest fault.message)

variable {σ : Type}

/-- Answers with what an action gives. -/
def run {α : Type} (action : Action σ α) (answer : α → Response) (s : State σ) :
    Response × State σ :=
  match action s with
  | (.ok a, s) => (answer a, s)
  | (.error refusal, s) => (refused refusal, s)

/-- Goes on unless a check has answered already. -/
def check {α : Type} (checked : Except Response α) (next : α → State σ → Response × State σ)
    (s : State σ) : Response × State σ :=
  match checked with
  | .ok a => next a s
  | .error response => (response, s)

/-- Checks the id in the path. -/
def withId (captured : List String) (next : InventoryId → State σ → Response × State σ) :
    State σ → Response × State σ :=
  check (capturedText captured) fun text => check (inventoryId text) next

/-- Checks the id in the path and then the body, which is taken in between the two. -/
def withIdAndDrafts (captured : List String) (r : Request)
    (next : InventoryId → Option (List Draft) → State σ → Response × State σ) :
    State σ → Response × State σ :=
  check (capturedText captured) fun text =>
    check (takenBody r) fun body =>
      check (inventoryId text) fun id => check (optionalDrafts body) (next id)

def previewJson (text : String) : Response := success (.object [("preview", .string text)])

/-- A service with its mint. Metrics are kept only where something records them. -/
structure Service (σ : Type) where
  mint : Mint σ
  routes : List Route
  recording : Bool

namespace Service

def metrics (service : Service σ) (s : State σ) : Response :=
  if service.recording then
    .text 200 (String.join ((s.tally.lines service.mint.backend.name).map (· ++ "\n")))
  else refused (.notFound "metrics recorder not installed")

/-- What an endpoint answers. -/
def answer (service : Service σ) (moment : Moment) (request : Request) (captured : List String) :
    Endpoint → State σ → Response × State σ
  | .health, s =>
    (success (.object [("status", .string "healthy"), ("version", .string version)]), s)
  | .ready, s =>
    match service.mint.backend.checkHealth s.store with
    | (result, store) => (readiness result.toBool, { s with store })
  | .metrics, s => (service.metrics s, s)
  | .elementTypes, s => (success (.array (catalogue.map entryToJson)), s)
  | .validate, s =>
    check (requiredDrafts request) (fun drafts =>
      run (Mint.validate drafts) fun count =>
        success (.object [("valid", .bool true), ("element_count", .nat count)])) s
  | .preview, s =>
    check (requiredDrafts request) (fun drafts =>
      run (service.mint.preview moment drafts) previewJson) s
  | .getLayout, s =>
    withId captured (fun id => run (service.mint.stored id) fun stored => success stored.encode) s
  | .putLayout, s =>
    check (capturedText captured) (fun text =>
      check (requiredDrafts request) fun drafts =>
        check (inventoryId text) fun id =>
          run (service.mint.save moment id drafts) fun stored => success stored.encode) s
  | .deleteLayout, s =>
    withId captured (fun id =>
      run (service.mint.delete id) fun _ => .json 200 (envelope 0 "success" none)) s
  | .previewFor, s =>
    withIdAndDrafts captured request (fun id drafts =>
      run (service.mint.previewFor moment id drafts) previewJson) s
  | .generate, s =>
    withIdAndDrafts captured request (fun id drafts =>
      run (service.mint.generate moment id drafts) fun text =>
        success (.object [("inventory_id", id.encode), ("custom_id", .string text)])) s
  | .sequence, s =>
    withId captured (fun id =>
      run (service.mint.sequence id) fun (next, initialized) =>
        success (.object
          [("inventory_id", id.encode), ("next_value", .nat next.toNat),
            ("initialized", .bool initialized)])) s

/-- Finds the endpoint of a request and lets it answer. -/
def dispatch (service : Service σ) (moment : Moment) (request : Request) (s : State σ) :
    Response × State σ :=
  match Route.find? service.routes request.path with
  | none => ({ status := 404 }, s)
  | some (route, captured) =>
    match route.endpoint? request.method with
    | none => ({ status := 405, headers := [("allow", ",".intercalate route.allowed)] }, s)
    | some endpoint =>
      match service.answer moment request captured endpoint s with
      | (response, s) =>
        (if request.method == "HEAD" then response.withoutBody else response, s)

/-- What browsers are told before they send anything across sites. -/
def preflight (service : Service σ) (request : Request) : Response :=
  let allow := match Route.find? service.routes request.path with
    | some (route, _) => [("allow", ",".intercalate route.allowed)]
    | none => []
  { status := 200
    headers :=
      [("access-control-allow-origin", "*"),
        ("access-control-allow-methods", "GET,POST,PUT,DELETE"),
        ("access-control-allow-headers", "content-type")] ++ allow }

/-- Handles a request. Every answer carries the id of its request: the one that was sent, or a new
one. -/
def handle (service : Service σ) (moment : Moment) (newId : Guid) (request : Request)
    (s : State σ) : Response × State σ :=
  if request.method == "OPTIONS" then (service.preflight request, s)
  else
    match service.dispatch moment request s with
    | (response, s) =>
      let requestId := (request.header? "x-request-id").getD (String.ofList newId.text)
      ((response.withHeader "x-request-id" requestId).withHeader "access-control-allow-origin" "*",
        s)

end Service
end Mintmark.Http
