import Mintmark.Problem
import Mintmark.Store.Error

/-!
# Refusals

Why a request was not carried out.
-/

namespace Mintmark

inductive Refusal where
  /-- nothing is stored for this inventory -/
  | notConfigured (inventory : String)
  | invalid (findings : List Finding)
  | renderFailed (finding : Finding)
  | badRequest (reason : String)
  | notFound (resource : String)
  | storage (error : Store.StoreError)
deriving DecidableEq, Repr

namespace Refusal

def summary : List Finding → String
  | [] => "no details"
  | [only] => only.message
  | first :: rest => first.message ++ " (and " ++ toString rest.length ++ " more)"

def message : Refusal → String
  | notConfigured inventory => s!"Configuration not found: {inventory}"
  | invalid findings => "Invalid configuration: " ++ summary findings
  | renderFailed finding => "Render failed: " ++ finding.message
  | badRequest reason => s!"Invalid request: {reason}"
  | notFound resource => s!"Resource not found: {resource}"
  | storage error => "Storage error: " ++ error.message

def code : Refusal → Code
  | notConfigured _ => .configurationNotFound
  | invalid [] => .invalidConfiguration
  | invalid (first :: _) => first.problem.code
  | renderFailed finding => finding.problem.code
  | badRequest _ => .badRequest
  | notFound _ => .notFound
  | storage _ => .storage

def status : Refusal → Nat
  | notConfigured _ | notFound _ => 404
  | invalid _ | badRequest _ => 400
  | renderFailed finding =>
    match finding.problem with
    | .noAllocation _ => 503
    | _ => 400
  | storage _ => 500

def findings : Refusal → List Finding
  | invalid findings => findings
  | renderFailed finding => [finding]
  | _ => []

end Refusal
end Mintmark
