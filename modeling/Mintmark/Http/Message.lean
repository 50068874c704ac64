import Mintmark.Json.Printer

/-!
# Requests and responses
-/

namespace Mintmark.Http

structure Request where
  method : String
  /-- the path, maybe behind the address of a server, and a query if there is one -/
  target : String
  headers : List (String × String) := []
  body : ByteArray := .empty

namespace Request

def isPathChar (c : Char) : Bool := c != '?' && c != '#'

def isSchemeChar (c : Char) : Bool := c.isAlphanum || c == '+' || c == '-' || c == '.'

/-- The path of the target, up to the query. Behind the address of a server the path may be left out
and is a slash then. A target that is neither a path nor such an address has no path. -/
def path (r : Request) : String :=
  let target := r.target.toList
  let path :=
    if target.head? = some '/' ∨ target = ['*'] then target.takeWhile isPathChar
    else
      match target.dropWhile isSchemeChar with
      | ':' :: '/' :: '/' :: rest =>
        match (rest.dropWhile fun c => c != '/' && isPathChar c).takeWhile isPathChar with
        | [] => ['/']
        | path => path
      | _ => []
  String.ofList path

/-- The first header of a name, which is in lower case. -/
def header? (r : Request) (name : String) : Option String :=
  (r.headers.find? fun h => h.1.toLower == name).map (·.2)

end Request

inductive Body where
  | empty
  | json (value : Json.Value)
  | text (s : String)

structure Response where
  status : Nat
  headers : List (String × String) := []
  body : Body := .empty

namespace Response

def json (status : Nat) (value : Json.Value) : Response :=
  { status, headers := [("content-type", "application/json")], body := .json value }

def text (status : Nat) (s : String) : Response :=
  { status, headers := [("content-type", "text/plain; charset=utf-8")], body := .text s }

def withHeader (r : Response) (name value : String) : Response :=
  { r with headers := r.headers ++ [(name, value)] }

/-- The same without its body. -/
def withoutBody (r : Response) : Response := { r with body := .empty }

def header? (r : Response) (name : String) : Option String :=
  (r.headers.find? (·.1 == name)).map (·.2)

def isSuccess (r : Response) : Bool := 200 ≤ r.status && r.status < 300

end Response
end Mintmark.Http
