import Mintmark.Layout.Check

/-!
# Tallies

How often identifiers were rendered, by mode and outcome, and how many values were taken from
counters. The text form lists only what has happened.
-/

namespace Mintmark

structure Tally where
  renders : Mode → Bool → Nat := fun _ _ => 0
  allocations : Nat := 0

namespace Tally

def zero : Tally := {}

/-- Counts a render that succeeded or failed. -/
def addRender (t : Tally) (mode : Mode) (success : Bool) : Tally :=
  { t with renders := fun m b => t.renders m b + if m = mode ∧ b = success then 1 else 0 }

def addAllocation (t : Tally) : Tally := { t with allocations := t.allocations + 1 }

def modes : List Mode := [.commit, .preview]

def outcomeName (success : Bool) : String := if success then "success" else "failure"

/-- A heading and its lines, or nothing if there are none. -/
def family (name kind : String) (lines : List String) : List String :=
  if lines.isEmpty then [] else s!"# TYPE {name} {kind}" :: lines ++ [""]

def labels (pairs : List (String × String)) : String :=
  "\x7b" ++ String.intercalate "," (pairs.map fun (key, value) => s!"{key}=\"{value}\"") ++ "\x7d"

/-- A line for a count that is not zero. -/
def line (name : String) (pairs : List (String × String)) (count : Nat) : List String :=
  if count = 0 then [] else [name ++ labels pairs ++ s!" {count}"]

def renderLines (t : Tally) : List String :=
  modes.flatMap fun mode => [false, true].flatMap fun success =>
    line "customid_renders_total" [("mode", mode.name), ("outcome", outcomeName success)]
      (t.renders mode success)

def durationLines (t : Tally) : List String :=
  modes.flatMap fun mode =>
    line "customid_render_duration_seconds_count" [("mode", mode.name)]
      (t.renders mode false + t.renders mode true)

/-- The lines of the text form. -/
def lines (t : Tally) (backend : String) : List String :=
  family "customid_renders_total" "counter" t.renderLines
    ++ family "customid_sequence_allocations_total" "counter"
      (line "customid_sequence_allocations_total" [("backend", backend)] t.allocations)
    ++ family "customid_render_duration_seconds" "summary" t.durationLines

end Tally
end Mintmark
