import Mintmark.Proofs.Json.Decoded
import Mintmark.Proofs.Layout.Places
import Mintmark.Proofs.Store.Documents

/-!
# How layouts come about

A layout is sorted from elements with positions of their own, numbered along a list, described by
drafts, read from a document, or made from another one by an edit. Whichever way it went, its
positions have 64 bits if those that were given had, for no list is longer than that. Nothing else
is asked of a layout, so there are no others.
-/

namespace Mintmark

open Json (Tree)
open Json.Decoder

/-- The position has 64 bits if there is one. -/
def ElementParts.Small {Kind : Type} (parts : ElementParts Kind Nat) : Prop :=
  ∀ order ∈ parts.order, order < Number.bound64

theorem ElementParts.keeps_small {Kind : Type} (kind : Json.Decoder Kind) :
    ∀ slot ∈ slots kind decodeOrder, slot.Keeps Small := by
  simp only [slots, List.forall_mem_cons]
  refine ⟨?_, ?_, ?_, ?_, by simp⟩
  · exact keeps_slot fun _ _ _ _ small => small
  · exact keeps_slot fun _ _ _ _ small => small
  · exact keeps_slot fun _ _ _ _ small => small
  · apply keeps_slot
    intro parts tree n read _ order member
    cases member
    exact lt_of_natBelow read

theorem Element.order_lt_of_decode {tree : Tree} {e : Element} (read : decode tree = .ok e) :
    e.order < Number.bound64 := by
  obtain ⟨parts, record, read⟩ := exists_of_bind read
  obtain ⟨kind, -, read⟩ := exists_of_bind read
  cases read
  have small : parts.Small := keeps_record (ElementParts.keeps_small _) record fun _ none => by
    cases none
  change parts.order.getD 0 < _
  cases found : parts.order with
  | none => decide
  | some order => exact small order found

namespace Layout

/-- The ways to make a layout, with every position that is given, and every length, in 64 bits. -/
inductive Built : Layout → Prop
  | empty : Built empty
  | sorted {elements : List Element} (words : ∀ e ∈ elements, e.order < Number.bound64) :
      Built (ofElements elements)
  | numbered {elements : List Element} (short : elements.length ≤ Number.bound64) :
      Built (ofList elements)
  | described {drafts : List Draft} {l : Layout}
      (words : ∀ d ∈ drafts, ∀ order ∈ d.order, order < Number.bound64)
      (short : drafts.length ≤ Number.bound64) (described : ofDrafts drafts = .ok l) : Built l
  | read {tree : Tree} {l : Layout} (read : decode tree = .ok l) : Built l
  | append {l : Layout} (before : Built l) (e : Element) (short : l.size < Number.bound64) :
      Built (l.append e)
  | appendNew {l : Layout} (before : Built l) (kind : Kind) (short : l.size < Number.bound64) :
      Built (l.appendNew kind)
  | erase {l l' : Layout} (before : Built l) {i : Nat} (short : l.size ≤ Number.bound64)
      (erased : l.erase? i = some l') : Built l'
  | replace {l l' : Layout} (before : Built l) {i : Nat} {e : Element}
      (short : l.size ≤ Number.bound64) (replaced : l.replace? i e = some l') : Built l'
  | move {l l' : Layout} (before : Built l) {source target : Nat}
      (short : l.size ≤ Number.bound64) (moved : l.move? source target = some l') : Built l'

theorem fits_ofElements {elements : List Element}
    (words : ∀ e ∈ elements, e.order < Number.bound64) : (ofElements elements).Fits :=
  fun e member => words e (List.mem_mergeSort.mp member)

theorem fits_ofList {elements : List Element} (short : elements.length ≤ Number.bound64) :
    (ofList elements).Fits := by
  intro e member
  obtain ⟨i, inside, rfl⟩ := List.mem_mapIdx.mp member
  exact Nat.lt_of_lt_of_le inside short

theorem fits_append {l : Layout} (e : Element) (short : l.size < Number.bound64) :
    (l.append e).Fits := by
  apply fits_ofList
  rw [List.length_append]
  exact short

theorem fits_of_ofDrafts {drafts : List Draft} {l : Layout}
    (words : ∀ d ∈ drafts, ∀ order ∈ d.order, order < Number.bound64)
    (short : drafts.length ≤ Number.bound64) (described : ofDrafts drafts = .ok l) : l.Fits := by
  unfold ofDrafts at described
  split at described
  · cases described
    apply fits_ofElements
    intro e member
    obtain ⟨⟨d, i⟩, place, resolved⟩ := List.mem_filterMap.mp member
    have here : drafts[i]? = some d := List.mem_zipIdx_iff_getElem?.mp place
    obtain ⟨-, -, -, order⟩ := Draft.toElement?_eq_some_iff.mp resolved
    rw [order]
    cases given : d.order with
    | none =>
      obtain ⟨inside, -⟩ := List.getElem?_eq_some_iff.mp here
      exact Nat.lt_of_lt_of_le inside short
    | some own => exact words d (List.mem_of_getElem? here) own given
  · cases described

theorem fits_of_decode {tree : Tree} {l : Layout} (read : decode tree = .ok l) : l.Fits := by
  obtain ⟨elements, items, rfl⟩ := exists_of_map read
  apply fits_ofElements
  intro e member
  obtain ⟨item, decoded⟩ := exists_of_mem_list items member
  exact e.order_lt_of_decode decoded

theorem Built.fits {l : Layout} (built : l.Built) : l.Fits := by
  cases built with
  | empty => exact fun e member => by cases member
  | sorted words => exact fits_ofElements words
  | numbered short => exact fits_ofList short
  | described words short described => exact fits_of_ofDrafts words short described
  | read read => exact fits_of_decode read
  | append before e short => exact fits_append e short
  | appendNew before kind short => exact fits_append _ short
  | @erase l _ before i short erased =>
    unfold erase? at erased
    split at erased <;> cases erased
    apply fits_ofList
    exact Nat.le_trans (List.length_eraseIdx_le l.elements i) short
  | replace before short replaced =>
    unfold replace? at replaced
    split at replaced <;> cases replaced
    apply fits_ofList
    rw [List.length_set]
    exact short
  | @move l _ before source target short moved =>
    unfold move? at moved
    split at moved
    · obtain ⟨e, here, rfl⟩ := Option.map_eq_some_iff.mp moved
      obtain ⟨taken, -⟩ := List.getElem?_eq_some_iff.mp here
      apply fits_ofList
      rw [size] at short
      rw [List.length_insertIdx, List.length_eraseIdx_of_lt taken]
      split <;> omega
    · cases moved

theorem built_iff_fits {l : Layout} : l.Built ↔ l.Fits := by
  refine ⟨Built.fits, fun fits => ?_⟩
  rw [← l.ofElements_elements]
  exact .sorted fits

end Layout
end Mintmark
