/-!
# Routes

A route is a path pattern with one endpoint for each of its methods. Patterns are compared character
by character: fixed text comes before a capture and before the rest of the path. Two patterns that
differ only in the names of their captures cannot stand side by side, and neither can a capture and
a rest at the same place.
-/

namespace Mintmark.Http

inductive Endpoint where
  | health
  | ready
  | metrics
  | elementTypes
  | validate
  | preview
  | getLayout
  | putLayout
  | deleteLayout
  | previewFor
  | generate
  | sequence
deriving DecidableEq, Repr

inductive PathPart where
  | fixed (c : Char)
  /-- all up to the next slash -/
  | capture (name : String)
  /-- all up to the end of the path -/
  | remainder (name : String)
deriving DecidableEq, Repr

inductive RouteFault where
  | malformed (path : String)
  /-- the method is taken at this path -/
  | overlapping (method path : String)
  | conflicting (path other : String)
deriving DecidableEq, Repr

namespace PathPart

/-- A character of a pattern, and whether it was written twice to stand for itself. -/
abbrev Mark := Char × Bool

/-- Reads doubled braces as one. -/
def marks : List Char → List Mark
  | '\x7b' :: '\x7b' :: cs => ('\x7b', true) :: marks cs
  | '\x7d' :: '\x7d' :: cs => ('\x7d', true) :: marks cs
  | c :: cs => (c, false) :: marks cs
  | [] => []

/-- Characters that a name holds only as its first one. -/
def endsName (m : Mark) : Bool := m.1 == '*' || m.1 == '/'

/-- What a name in braces stands for, in front of the rest of the pattern. A name with a star takes
all that is left, and any other is followed by a slash or by nothing. -/
def ofName? (first : Mark) (name rest : List Mark) : Option PathPart :=
  let text := String.ofList (name.map (·.1))
  if first.1 = '\x7d' ∨ name.any endsName then none
  else if first.1 = '*' then
    if name.isEmpty || !rest.isEmpty then none else some (remainder text)
  else if rest.head?.all (·.1 == '/') then some (capture (first.1.toString ++ text))
  else none

/-- Where the reading of a pattern stands. -/
inductive Spot where
  | outside
  /-- right behind an opening brace -/
  | opened
  /-- in braces, behind a first character and others in reverse -/
  | inside (first : Mark) (name : List Mark)

/-- The parts of a pattern from a spot on. -/
def ofMarks? : Spot → List Mark → Option (List PathPart)
  | .outside, [] => some []
  | .opened, [] | .inside .., [] => none
  | .outside, m :: ms =>
    if m = ('\x7b', false) then ofMarks? .opened ms
    else if m = ('\x7d', false) then none
    else (ofMarks? .outside ms).map (fixed m.1 :: ·)
  | .opened, m :: ms => ofMarks? (.inside m []) ms
  | .inside first name, m :: ms =>
    if m = ('\x7d', false) then do
      return (← ofName? first name.reverse ms) :: (← ofMarks? .outside ms)
    else ofMarks? (.inside first (m :: name)) ms

/-- The parts of a path pattern, which starts with a slash. None of its segments starts with a colon
or a star. -/
def parse? (path : String) : Option (List PathPart) :=
  let segments := path.toList.splitOn '/'
  if path.toList.head? ≠ some '/' then none
  else if segments.any fun s => s.head? == some ':' || s.head? == some '*' then none
  else ofMarks? .outside (marks path.toList)

/-- What the captures of a pattern hold in a path. Where nothing is left of the path nothing is
captured. -/
def capture? : List PathPart → List Char → Option (List String)
  | [], [] => some []
  | fixed c :: parts, d :: cs => if c = d then capture? parts cs else none
  | capture _ :: parts, c :: cs => do
    let value := String.ofList ((c :: cs).takeWhile (· != '/'))
    return value :: (← capture? parts ((c :: cs).dropWhile (· != '/')))
  | [remainder _], c :: cs => some [String.ofList (c :: cs)]
  | _, _ => none

def isFixed : PathPart → Bool
  | fixed _ => true
  | capture _ | remainder _ => false

/-- Whether two different patterns cannot be told apart. -/
def clash : List PathPart → List PathPart → Bool
  | [], [] => true
  | fixed a :: p, fixed b :: q => a == b && clash p q
  | capture _ :: p, capture _ :: q => clash p q
  | remainder _ :: _, q :: _ => !q.isFixed
  | p :: _, remainder _ :: _ => !p.isFixed
  | _, _ => false

end PathPart

structure Route where
  path : String
  pattern : List PathPart
  methods : List (String × Endpoint)

namespace Route

/-- The methods that a path answers. Whatever can be got can also be asked for without its body. -/
def allowed (r : Route) : List String :=
  r.methods.flatMap fun m => if m.1 == "GET" then ["GET", "HEAD"] else [m.1]

def endpoint? (r : Route) (method : String) : Option Endpoint :=
  r.methods.lookup (if method == "HEAD" then "GET" else method)

/-- Adds an endpoint to the routes before it. -/
def add (routes : List Route) (path method : String) (endpoint : Endpoint) :
    Except RouteFault (List Route) :=
  match PathPart.parse? path with
  | none => .error (.malformed path)
  | some pattern =>
    match routes.find? (·.path == path) with
    | some route =>
      if (route.methods.lookup method).isSome then .error (.overlapping method path)
      else
        .ok (routes.map fun r =>
          if r.path == path then { r with methods := r.methods ++ [(method, endpoint)] } else r)
    | none =>
      match routes.find? fun r => PathPart.clash r.pattern pattern with
      | some other => .error (.conflicting path other.path)
      | none => .ok (routes ++ [{ path, pattern, methods := [(method, endpoint)] }])

def addAll (routes : List Route) (more : List (String × String × Endpoint)) :
    Except RouteFault (List Route) :=
  more.foldlM (fun routes (path, method, endpoint) => add routes path method endpoint) routes

/-- The routes of the service itself. -/
def services : List (String × String × Endpoint) :=
  [("/v1/element-types", "GET", .elementTypes),
    ("/v1/custom-id/validate", "POST", .validate),
    ("/v1/custom-id/preview", "POST", .preview),
    ("/v1/inventories/\x7binventory_id\x7d/custom-id", "GET", .getLayout),
    ("/v1/inventories/\x7binventory_id\x7d/custom-id", "PUT", .putLayout),
    ("/v1/inventories/\x7binventory_id\x7d/custom-id", "DELETE", .deleteLayout),
    ("/v1/inventories/\x7binventory_id\x7d/custom-id/preview", "POST", .previewFor),
    ("/v1/inventories/\x7binventory_id\x7d/custom-id/generate", "POST", .generate),
    ("/v1/inventories/\x7binventory_id\x7d/sequence", "GET", .sequence)]

/-- All routes; the path of the metrics is a matter of settings. -/
def table (metricsPath : Option String) : Except RouteFault (List Route) := do
  let routes ← addAll [] [("/health", "GET", .health), ("/ready", "GET", .ready)]
  let routes ← addAll routes (metricsPath.toList.map fun path => (path, "GET", .metrics))
  addAll routes services

/-- Of two routes of one path, whether the first has fixed text where they first differ. -/
def isBefore (a b : Route) : Bool :=
  match (a.pattern.zip b.pattern).find? fun (x, y) => x.isFixed != y.isFixed with
  | some (x, _) => x.isFixed
  | none => false

/-- The route of a path, and what it captures there. -/
def find? (routes : List Route) (path : String) : Option (Route × List String) :=
  let found := routes.filterMap fun r => (PathPart.capture? r.pattern path.toList).map (r, ·)
  found.foldl (fun best next =>
    match best with
    | none => some next
    | some (route, values) => if isBefore next.1 route then some next else some (route, values))
    none

end Route
end Mintmark.Http
