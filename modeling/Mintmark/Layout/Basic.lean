import Mintmark.Problem

/-!
# Layouts

A layout is the list of elements of one inventory's identifiers, sorted by their positions. The
positions come from outside and may repeat or leave gaps; an edit numbers them anew, from zero.
-/

namespace Mintmark

structure Layout where
  elements : List Element
  sorted : elements.Pairwise fun a b => a.order ≤ b.order
deriving DecidableEq

namespace Layout

/-- The most elements a layout may have. -/
def maxElements : Nat := 10

def empty : Layout := ⟨[], .nil⟩

instance : Inhabited Layout := ⟨empty⟩

def size (l : Layout) : Nat := l.elements.length

/-- Sorts elements by position. Those that share one stay as they stand. -/
def ofElements (elements : List Element) : Layout where
  elements := elements.mergeSort fun a b => a.order ≤ b.order
  sorted := by
    have total (a b : Element) : (decide (a.order ≤ b.order) || decide (b.order ≤ a.order)) = true := by
      simpa using Nat.le_total ..
    have trans (a b c : Element) (ab : decide (a.order ≤ b.order) = true)
        (bc : decide (b.order ≤ c.order) = true) : decide (a.order ≤ c.order) = true := by
      simp only [decide_eq_true_eq] at ab bc ⊢
      exact Nat.le_trans ab bc
    simpa using List.pairwise_mergeSort trans total elements

theorem ofElements_elements (l : Layout) : ofElements l.elements = l := by
  obtain ⟨elements, sorted⟩ := l
  simp only [ofElements, mk.injEq]
  exact List.mergeSort_of_pairwise (by simpa using sorted)

/-- The elements in the order of the list, numbered from zero. -/
def ofList (elements : List Element) : Layout where
  elements := elements.mapIdx fun i e => e.withOrder i
  sorted := by
    rw [List.pairwise_iff_getElem]
    intro i j _ _ before
    simp only [List.getElem_mapIdx, Element.withOrder]
    omega

theorem size_ofList (elements : List Element) : (ofList elements).size = elements.length := by
  simp [ofList, size]

/-- One finding for every draft of unknown kind. -/
def unknownKinds (drafts : List Draft) : List Finding :=
  drafts.zipIdx.filterMap fun (d, i) =>
    match Kind.ofName? d.kind with
    | some _ => none
    | none => some (.about i .kind (.unknownKind d.kind))

/-- The layout that drafts describe. A draft without a position takes its place in the list. -/
def ofDrafts (drafts : List Draft) : Except (List Finding) Layout :=
  match unknownKinds drafts with
  | [] => .ok (ofElements (drafts.zipIdx.filterMap fun (d, i) => d.toElement? i))
  | findings => .error findings

def toDrafts (l : Layout) : List Draft := l.elements.map Element.toDraft

/-- The position of the first element that shows the counter. -/
def sequenceIndex? (l : Layout) : Option Nat := l.elements.findIdx? (·.kind == .sequence)

def append (l : Layout) (e : Element) : Layout := ofList (l.elements ++ [e])

def appendNew (l : Layout) (kind : Kind) : Layout := l.append (.ofKind kind)

def erase? (l : Layout) (i : Nat) : Option Layout :=
  if i < l.size then some (ofList (l.elements.eraseIdx i)) else none

def replace? (l : Layout) (i : Nat) (e : Element) : Option Layout :=
  if i < l.size then some (ofList (l.elements.set i e)) else none

/-- Takes an element out and puts it back so that it ends at a given place. -/
def move? (l : Layout) (source target : Nat) : Option Layout :=
  if target < l.size then
    l.elements[source]?.map fun e => ofList ((l.elements.eraseIdx source).insertIdx target e)
  else none

end Layout
end Mintmark
