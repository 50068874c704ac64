import Mintmark.Format.Cache
import Mintmark.Layout.Basic
import Mintmark.Text.Blank

/-!
# Checking layouts

Every problem of a layout is reported at once: first what concerns the layout as a whole, then the
positions, then the elements one by one. Specifiers are compiled through the rule cache, so that a
render finds them there.
-/

namespace Mintmark

open Format

/-- A preview shows what a commit would give and takes nothing from the counter. -/
inductive Mode where
  | preview
  | commit
deriving DecidableEq, Repr

namespace Mode

def name : Mode → String
  | preview => "preview"
  | commit => "commit"

def ofName? : String → Option Mode
  | "preview" => some preview
  | "commit" => some commit
  | _ => none

end Mode

/-- What is wrong with an element by itself. A specifier that is missing is not compiled. -/
def Element.check (position : Nat) (e : Element) (cache : RuleCache) : List Finding × RuleCache :=
  let value :=
    if e.kind.requiresValue && Text.allBlank e.valueText then
      [Finding.about position .value (.missing .value)]
    else []
  if e.kind.requiresFormat && e.formatText.isEmpty then
    (value ++ [Finding.about position .format (.missing .format)], cache)
  else
    match cache.rule e.kind e.formatText with
    | (.ok _, cache) => (value, cache)
    | (.error problem, cache) => (value ++ [Finding.about position .format problem], cache)

/-- What is wrong with a draft by itself. -/
def Draft.check (position : Nat) (d : Draft) (cache : RuleCache) : List Finding × RuleCache :=
  match d.toElement? position with
  | some e => e.check position cache
  | none => ([Finding.about position .kind (.unknownKind d.kind)], cache)

namespace Layout

/-- Checks items one after another from a position on, handing the cache along. -/
def checkEach {α : Type} (check : Nat → α → RuleCache → List Finding × RuleCache) :
    Nat → List α → RuleCache → List Finding × RuleCache
  | _, [], cache => ([], cache)
  | position, a :: as, cache =>
    let (first, cache) := check position a cache
    let (rest, cache) := checkEach check (position + 1) as cache
    (first ++ rest, cache)

def checkCount (count : Nat) : List Finding :=
  if maxElements < count then [.overall (.tooMany count maxElements)] else []

/-- Only a preview may be of nothing. -/
def checkSize (mode : Mode) (count : Nat) : List Finding :=
  checkCount count ++
    if count = 0 ∧ mode = .commit then [.overall .noElements] else []

/-- Elements are sorted, so positions and orders agree everywhere exactly if the orders are the
numbers from zero. -/
def checkOrders (elements : List Element) : List Finding :=
  elements.zipIdx.filterMap fun (e, i) =>
    if e.order = i then none else some (.about i .order (.badOrder e.order elements.length))

/-- Everything that stands in the way of rendering a layout. -/
def check (mode : Mode) (l : Layout) (cache : RuleCache) : List Finding × RuleCache :=
  let (each, cache) := checkEach (fun i e => e.check i) 0 l.elements cache
  (checkSize mode l.size ++ checkOrders l.elements ++ each, cache)

/-- The layout of some drafts, if nothing stands in its way. As long as a kind is unknown the
positions are not looked at, but all else is. -/
def checkDrafts (mode : Mode) (drafts : List Draft) (cache : RuleCache) :
    Except (List Finding) Layout × RuleCache :=
  match ofDrafts drafts with
  | .ok l =>
    match l.check mode cache with
    | ([], cache) => (.ok l, cache)
    | (findings, cache) => (.error findings, cache)
  | .error _ =>
    let (each, cache) := checkEach (fun i d => d.check i) 0 drafts cache
    (.error (checkCount drafts.length ++ each), cache)

end Layout
end Mintmark
