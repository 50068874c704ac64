import Mintmark.Mint.Tally
import Mintmark.Raw
import Mintmark.Store.Backend

/-!
# Rendering identifiers

A mint renders layouts with the counters of one store. A render checks the whole layout first, then
takes at most one value from the counter, which all sequence elements share, and then puts the
pieces together. Nothing can fail after the value is taken, so no value is lost on a bad layout.
-/

namespace Mintmark

open Format Store

structure Mint (σ : Type) where
  backend : Backend σ
  /-- the first value of a fresh counter -/
  start : UInt64

namespace Mint

/-- What a request finds on arrival. -/
structure Moment where
  /-- the instant that identifiers show -/
  now : Instant
  /-- the instant at which things are stored -/
  wall : Instant
  words : Words

structure State (σ : Type) where
  store : σ
  rules : RuleCache := .empty
  tally : Tally := .zero

variable {σ : Type}

/-- The rules of elements from a position on, or the first that does not compile. -/
def compileAll : Nat → List Element → RuleCache → Except Finding (List Rule) × RuleCache
  | _, [], rules => (.ok [], rules)
  | position, e :: es, rules =>
    match rules.rule e.kind e.formatText with
    | (.error problem, rules) => (.error (.about position .format problem), rules)
    | (.ok rule, rules) =>
      match compileAll (position + 1) es rules with
      | (rest, rules) => (rest.map (rule :: ·), rules)

def noAllocation (index : Nat) (error : StoreError) : Finding :=
  { index := some index, problem := .noAllocation error.message }

/-- The value that sequence elements show: the next one for a preview, a value taken for a commit,
and the start value where there is no inventory. -/
def sequenceValue (m : Mint σ) (moment : Moment) (mode : Mode) (id? : Option InventoryId)
    (index : Nat) (s : State σ) : Except Finding UInt64 × State σ :=
  match id?, mode with
  | none, _ => (.ok m.start, s)
  | some id, .preview =>
    match m.backend.peek id m.start s.store with
    | (answer, store) => (answer.mapError (noAllocation index), { s with store })
  | some id, .commit =>
    match m.backend.allocate id m.start moment.wall.millis s.store with
    | (.ok value, store) => (.ok value, { s with store, tally := s.tally.addAllocation })
    | (.error error, store) => (.error (noAllocation index error), { s with store })

/-- The text of elements from a position on, each with its rule. -/
def assemble (now : Instant) (sequence : Option UInt64) :
    Nat → List (Element × Rule) → Words → Except Finding String
  | _, [], _ => .ok ""
  | position, (e, rule) :: rest, words =>
    match Raw.generate now sequence e words with
    | (.error problem, _) => .error { index := some position, problem }
    | (.ok raw, words) =>
      (assemble now sequence (position + 1) rest words).map (raw.render rule ++ ·)

/-- Renders a layout that was found in order. -/
def fill (m : Mint σ) (moment : Moment) (mode : Mode) (id? : Option InventoryId) (l : Layout)
    (rules : List Rule) (s : State σ) : Except Finding String × State σ :=
  let pieces := l.elements.zip rules
  match l.sequenceIndex? with
  | none => (assemble moment.now none 0 pieces moment.words, s)
  | some index =>
    match m.sequenceValue moment mode id? index s with
    | (.error finding, s) => (.error finding, s)
    | (.ok value, s) => (assemble moment.now (some value) 0 pieces moment.words, s)

/-- Renders a layout, or stops at the first finding. -/
def compose (m : Mint σ) (moment : Moment) (mode : Mode) (id? : Option InventoryId) (l : Layout)
    (s : State σ) : Except Finding String × State σ :=
  match l.check mode s.rules with
  | (finding :: _, rules) => (.error finding, { s with rules })
  | ([], rules) =>
    match compileAll 0 l.elements rules with
    | (.error finding, rules) => (.error finding, { s with rules })
    | (.ok compiled, rules) => m.fill moment mode id? l compiled { s with rules }

/-- Renders a layout and counts the outcome. -/
def render (m : Mint σ) (moment : Moment) (mode : Mode) (id? : Option InventoryId) (l : Layout)
    (s : State σ) : Except Finding String × State σ :=
  match m.compose moment mode id? l s with
  | (answer, s) => (answer, { s with tally := s.tally.addRender mode answer.toBool })

/-- An example of an identifier. Takes nothing from the counter. -/
def renderPreview (m : Mint σ) (moment : Moment) (id? : Option InventoryId) (l : Layout) :
    State σ → Except Finding String × State σ :=
  m.render moment .preview id? l

/-- The identifier of a new record. -/
def renderCommitted (m : Mint σ) (moment : Moment) (id : InventoryId) (l : Layout) :
    State σ → Except Finding String × State σ :=
  m.render moment .commit (some id) l

end Mint
end Mintmark
