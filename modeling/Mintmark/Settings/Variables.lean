import Mintmark.Number.Reading
import Mintmark.Settings.KeyPath

/-!
# Variables

Settings from the environment. A variable belongs to the settings if its name has the right start, in
letters of either case; two underscores lead one table deeper. A value is read as a flag, a whole
number or a number if it can be.
-/

namespace Mintmark.Settings

/-- Names and values. -/
abbrev Variables := List (String × String)

namespace Variables

def nameStart : List Char := "customid_worker__".toList

/-- Writes a point for every two underscores. -/
def pointed : List Char → List Char
  | '_' :: '_' :: rest => '.' :: pointed rest
  | c :: rest => c :: pointed rest
  | [] => []

/-- The key of a variable that belongs to the settings. -/
def key? (name : String) : Option String :=
  let name := (Loose.lower name).toList
  if nameStart.isPrefixOf name then some (String.ofList (pointed (name.drop nameStart.length)))
  else none

def valueOf (s : String) : Loose :=
  match Loose.lower s with
  | "true" => .flag true
  | "false" => .flag false
  | _ =>
    match Text.readInt64? s.toList, Number.Binary64.ofText? s.toList with
    | some i, _ => .whole i
    | none, some x => .real x
    | none, none => .text s

/-- The entries for the settings. -/
def entries (env : Variables) : List (String × Loose) :=
  env.filterMap fun (name, value) => (key? name).map (·, valueOf value)

/-- The value of a variable; an empty one counts. -/
def find? (env : Variables) (name : String) : Option String := env.lookup name

end Variables
end Mintmark.Settings
