import Mathlib
import Mintmark.Layout.Check

/-!
# What the index of a finding points at

The findings on drafts carry an index. As long as a kind is unknown the index is the place at which
the draft was submitted. Once all kinds are known the drafts are sorted before they are checked, and
the index is a place among the sorted drafts: it is the place of submission only if the drafts were
submitted in the order of their positions.
-/

namespace Mintmark

open Format

/-- The finding at this index reports a fault that the draft has, which was submitted at this
place. -/
inductive Draft.HasFault (d : Draft) (place index : Nat) : Finding → Prop
  | unknown (name : Kind.ofName? d.kind = none) :
      HasFault d place index (.about index .kind (.unknownKind d.kind))
  | blank (known : Kind.ofName? d.kind = some .fixedText)
      (blank : Text.allBlank (d.value.getD "") = true) :
      HasFault d place index (.about index .value (.missing .value))
  | unspecified {kind : Kind} (known : Kind.ofName? d.kind = some kind)
      (requires : kind.requiresFormat = true) (absent : d.format.getD "" = "") :
      HasFault d place index (.about index .format (.missing .format))
  | malformed {kind : Kind} {problem : Problem} (known : Kind.ofName? d.kind = some kind)
      (fails : Rule.compile kind (d.format.getD "") = .error problem) :
      HasFault d place index (.about index .format problem)
  | misplaced {count : Nat} (elsewhere : d.order.getD place ≠ index) :
      HasFault d place index (.about index .order (.badOrder (d.order.getD place) count))

theorem Draft.HasFault.index_eq {d : Draft} {place index : Nat} {f : Finding}
    (fault : d.HasFault place index f) : f.index = some index := by
  cases fault <;> rfl

theorem Draft.toElement?_eq_some_iff {d : Draft} {place : Nat} {e : Element} :
    d.toElement? place = some e ↔ Kind.ofName? d.kind = some e.kind ∧ e.value = d.value ∧
      e.format = d.format ∧ e.order = d.order.getD place := by
  obtain ⟨kind, value, format, order⟩ := e
  rw [toElement?]
  cases Kind.ofName? d.kind with
  | none => simp
  | some other =>
    simp only [Option.map_some, Option.some.injEq, Element.mk.injEq]
    constructor
    · rintro ⟨rfl, rfl, rfl, rfl⟩
      exact ⟨rfl, rfl, rfl, rfl⟩
    · rintro ⟨rfl, rfl, rfl, rfl⟩
      exact ⟨rfl, rfl, rfl, rfl⟩

theorem Element.mem_check_iff {e : Element} {position : Nat} {cache : RuleCache} {f : Finding} :
    f ∈ (e.check position cache).1 ↔
      (e.kind.requiresValue = true ∧ Text.allBlank e.valueText = true ∧
        f = .about position .value (.missing .value)) ∨
      (e.kind.requiresFormat = true ∧ e.formatText = "" ∧
        f = .about position .format (.missing .format)) ∨
      (¬ (e.kind.requiresFormat = true ∧ e.formatText = "") ∧
        ∃ problem, Rule.compile e.kind e.formatText = .error problem ∧
          f = .about position .format problem) := by
  have value : f ∈ (if e.kind.requiresValue && Text.allBlank e.valueText then
      [Finding.about position .value (.missing .value)] else []) ↔
      e.kind.requiresValue = true ∧ Text.allBlank e.valueText = true ∧
        f = .about position .value (.missing .value) := by
    cases e.kind.requiresValue <;> cases Text.allBlank e.valueText <;> simp
  have compiled := cache.rule_fst e.kind e.formatText
  have empty : e.formatText.isEmpty = true ↔ e.formatText = "" := String.isEmpty_iff
  unfold Element.check
  by_cases bare : e.kind.requiresFormat = true ∧ e.formatText = ""
  · rw [if_pos (by rw [Bool.and_eq_true, empty]; exact bare), List.mem_append, value,
      List.mem_singleton]
    simp [bare]
  · have specified : ¬ (e.kind.requiresFormat = true ∧ e.formatText = "" ∧
        f = .about position .format (.missing .format)) := fun h => bare ⟨h.1, h.2.1⟩
    rw [if_neg (by rw [Bool.and_eq_true, empty]; exact bare)]
    rcases answer : cache.rule e.kind e.formatText with ⟨problem | rule, rest⟩
    · rw [answer] at compiled
      simp only [List.mem_append, value, List.mem_singleton, ← compiled, specified, bare]
      simp
    · rw [answer] at compiled
      simp only [value, ← compiled, specified]
      simp

theorem Element.hasFault_of_mem_check {d : Draft} {place index : Nat} {e : Element}
    (resolved : d.toElement? place = some e) {cache : RuleCache} {f : Finding}
    (member : f ∈ (e.check index cache).1) : d.HasFault place index f := by
  obtain ⟨known, value, format, -⟩ := Draft.toElement?_eq_some_iff.mp resolved
  rcases Element.mem_check_iff.mp member with
    ⟨requires, blank, rfl⟩ | ⟨requires, absent, rfl⟩ | ⟨-, problem, fails, rfl⟩
  · rw [Kind.requiresValue, beq_iff_eq] at requires
    apply Draft.HasFault.blank
    · rw [known, requires]
    · rwa [← value]
  · apply Draft.HasFault.unspecified known requires
    rwa [← format]
  · apply Draft.HasFault.malformed known
    rwa [← format]

theorem Draft.hasFault_of_mem_check {d : Draft} {index : Nat} {cache : RuleCache} {f : Finding}
    (member : f ∈ (d.check index cache).1) : d.HasFault index index f := by
  unfold Draft.check at member
  cases resolved : d.toElement? index with
  | some e =>
    rw [resolved] at member
    exact e.hasFault_of_mem_check resolved member
  | none =>
    rw [resolved] at member
    rw [List.mem_singleton.mp member]
    apply Draft.HasFault.unknown
    simpa [toElement?] using resolved

namespace Layout

theorem exists_of_mem_checkEach {α : Type} {check : Nat → α → RuleCache → List Finding × RuleCache}
    {position : Nat} {as : List α} {cache : RuleCache} {f : Finding}
    (member : f ∈ (checkEach check position as cache).1) :
    ∃ i a rules, as[i]? = some a ∧ f ∈ (check (position + i) a rules).1 := by
  induction as generalizing position cache with
  | nil => cases member
  | cons a as ih =>
    rcases List.mem_append.mp member with first | rest
    · exact ⟨0, a, cache, rfl, first⟩
    · obtain ⟨i, b, rules, here, found⟩ := ih rest
      refine ⟨i + 1, b, rules, here, ?_⟩
      rwa [Nat.add_right_comm, Nat.add_assoc] at found

theorem exists_of_mem_checkOrders {elements : List Element} {f : Finding}
    (member : f ∈ checkOrders elements) :
    ∃ i e, elements[i]? = some e ∧ e.order ≠ i ∧
      f = .about i .order (.badOrder e.order elements.length) := by
  obtain ⟨⟨e, i⟩, here, found⟩ := List.mem_filterMap.mp member
  dsimp only at found
  split at found
  · cases found
  · next elsewhere =>
    exact ⟨i, e, List.mem_zipIdx_iff_getElem?.mp here, elsewhere, (Option.some.inj found).symm⟩

theorem index_of_mem_checkCount {count : Nat} {f : Finding} (member : f ∈ checkCount count) :
    f.index = none := by
  rw [checkCount] at member
  split at member
  · rw [List.mem_singleton.mp member]
    rfl
  · cases member

theorem index_of_mem_checkSize {mode : Mode} {count : Nat} {f : Finding}
    (member : f ∈ checkSize mode count) : f.index = none := by
  rw [checkSize] at member
  rcases List.mem_append.mp member with large | small
  · exact index_of_mem_checkCount large
  · split at small
    · rw [List.mem_singleton.mp small]
      rfl
    · cases small

theorem index_of_mem_check {e : Element} {position : Nat} {rules : RuleCache} {f : Finding}
    (member : f ∈ (e.check position rules).1) : f.index = some position := by
  rcases Element.mem_check_iff.mp member with ⟨-, -, rfl⟩ | ⟨-, -, rfl⟩ | ⟨-, _, -, rfl⟩ <;> rfl

/-- What a check finds at an index is a fault of the element there: its order, or one of its own. -/
theorem exists_of_mem_check {mode : Mode} {l : Layout} {cache : RuleCache} {f : Finding}
    (member : f ∈ (l.check mode cache).1) {i : Nat} (index : f.index = some i) :
    ∃ e, l.elements[i]? = some e ∧
      ((e.order ≠ i ∧ f = .about i .order (.badOrder e.order l.size)) ∨
        ∃ rules, f ∈ (e.check i rules).1) := by
  rcases List.mem_append.mp member with overall | each
  · rcases List.mem_append.mp overall with size | orders
    · rw [index_of_mem_checkSize size] at index
      cases index
    · obtain ⟨j, e, here, elsewhere, rfl⟩ := exists_of_mem_checkOrders orders
      cases index
      exact ⟨e, here, .inl ⟨elsewhere, rfl⟩⟩
  · obtain ⟨j, e, rules, here, found⟩ := exists_of_mem_checkEach each
    rw [Nat.zero_add] at found
    rw [index_of_mem_check found] at index
    cases index
    exact ⟨e, here, .inr ⟨rules, found⟩⟩

/-- The drafts with the places they were submitted at, sorted by their positions. -/
def arranged (drafts : List Draft) : List (Draft × Nat) :=
  drafts.zipIdx.mergeSort fun a b => a.1.order.getD a.2 ≤ b.1.order.getD b.2

/-- The drafts were submitted in the order of their positions. -/
def InOrder (drafts : List Draft) : Prop :=
  drafts.zipIdx.Pairwise fun a b => a.1.order.getD a.2 ≤ b.1.order.getD b.2

theorem arranged_of_inOrder {drafts : List Draft} (inOrder : InOrder drafts) :
    arranged drafts = drafts.zipIdx := by
  apply List.mergeSort_of_pairwise
  simpa [InOrder] using inOrder

theorem known_of_unknownKinds {drafts : List Draft} (known : unknownKinds drafts = [])
    {d : Draft} (member : d ∈ drafts) : ∃ kind, Kind.ofName? d.kind = some kind := by
  obtain ⟨i, here⟩ := List.getElem?_of_mem member
  have none := List.filterMap_eq_nil_iff.mp known (d, i) (List.mem_zipIdx_iff_getElem?.mpr here)
  cases named : Kind.ofName? d.kind with
  | some kind => exact ⟨kind, rfl⟩
  | none =>
    simp only [named] at none
    cases none

/-- An element of the layout comes from the draft that stands at the same place when sorted. -/
theorem exists_arranged {drafts : List Draft} (known : unknownKinds drafts = []) {i : Nat}
    {e : Element}
    (here : (ofElements (drafts.zipIdx.filterMap fun (d, i) => d.toElement? i)).elements[i]? =
      some e) :
    ∃ d place, (arranged drafts)[i]? = some (d, place) ∧ d.toElement? place = some e := by
  -- all drafts resolve, so picking their elements is mapping them, and sorting commutes with that
  let resolve (p : Draft × Nat) : Element := (p.1.toElement? p.2).getD { kind := .guid }
  have resolves {p : Draft × Nat} (member : p ∈ drafts.zipIdx) :
      p.1.toElement? p.2 = some (resolve p) := by
    have submitted : drafts[p.2]? = some p.1 := List.mem_zipIdx_iff_getElem?.mp member
    obtain ⟨kind, named⟩ := known_of_unknownKinds known (List.mem_of_getElem? submitted)
    simp [resolve, Draft.toElement?, named]
  have mapped : (drafts.zipIdx.filterMap fun (d, i) => d.toElement? i) =
      drafts.zipIdx.map resolve :=
    List.filterMap_eq_map_iff_forall_eq_some.mpr fun p member => resolves member
  have sorted : ((arranged drafts).map resolve) =
      (drafts.zipIdx.map resolve).mergeSort fun a b => a.order ≤ b.order := by
    apply List.map_mergeSort
    intro p member q member'
    rw [(Draft.toElement?_eq_some_iff.mp (resolves member)).2.2.2,
      (Draft.toElement?_eq_some_iff.mp (resolves member')).2.2.2]
  change (List.mergeSort (drafts.zipIdx.filterMap _) _)[i]? = some e at here
  rw [mapped, ← sorted, List.getElem?_map, Option.map_eq_some_iff] at here
  obtain ⟨⟨d, place⟩, there, rfl⟩ := here
  have member : (d, place) ∈ drafts.zipIdx := List.mem_mergeSort.mp (List.mem_of_getElem? there)
  exact ⟨d, place, there, resolves member⟩

/-- What is found at an index concerns the draft that stands there, sorted once all kinds are
known. Submitted in order, or with a kind unknown, it is the draft that was submitted there. -/
theorem findings_point_at_arranged_drafts {mode : Mode} {drafts : List Draft} {cache : RuleCache}
    {findings : List Finding} (refused : (checkDrafts mode drafts cache).1 = .error findings)
    {f : Finding} (member : f ∈ findings) {i : Nat} (index : f.index = some i) :
    (unknownKinds drafts = [] →
      ∃ d place, (arranged drafts)[i]? = some (d, place) ∧ d.HasFault place i f) ∧
    (unknownKinds drafts ≠ [] ∨ InOrder drafts →
      ∃ d, drafts[i]? = some d ∧ d.HasFault i i f) := by
  have sorted (known : unknownKinds drafts = []) :
      ∃ d place, (arranged drafts)[i]? = some (d, place) ∧ d.HasFault place i f := by
    simp only [checkDrafts, ofDrafts, known] at refused
    split at refused
    · cases refused
    · next rest _ checked =>
      cases refused
      have found := congrArg Prod.fst checked
      dsimp only at found
      rw [← found] at member
      obtain ⟨e, here, fault⟩ := exists_of_mem_check member index
      obtain ⟨d, place, there, resolved⟩ := exists_arranged known here
      refine ⟨d, place, there, ?_⟩
      rcases fault with ⟨elsewhere, rfl⟩ | ⟨rules, own⟩
      · rw [(Draft.toElement?_eq_some_iff.mp resolved).2.2.2] at elsewhere ⊢
        exact .misplaced elsewhere
      · exact e.hasFault_of_mem_check resolved own
  refine ⟨sorted, fun submitted => ?_⟩
  by_cases known : unknownKinds drafts = []
  · obtain ⟨d, place, here, fault⟩ := sorted known
    rw [arranged_of_inOrder (submitted.resolve_left (absurd known)), List.getElem?_zipIdx,
      Option.map_eq_some_iff] at here
    obtain ⟨d, here, same⟩ := here
    rw [Nat.zero_add] at same
    cases same
    exact ⟨d, here, fault⟩
  · obtain ⟨first, rest, unknown⟩ := List.exists_cons_of_ne_nil known
    simp only [checkDrafts, ofDrafts, unknown] at refused
    cases refused
    rcases List.mem_append.mp member with count | each
    · rw [index_of_mem_checkCount count] at index
      cases index
    · obtain ⟨j, d, rules, here, found⟩ := exists_of_mem_checkEach each
      rw [Nat.zero_add] at found
      have fault := d.hasFault_of_mem_check found
      cases fault.index_eq.symm.trans index
      exact ⟨d, here, fault⟩

/-- A blank text that is to stand behind a GUID, submitted before it. -/
def swapped : List Draft :=
  [{ kind := "FIXED_TEXT", value := some "", order := some 1 }, { kind := "GUID", order := some 0 }]

theorem checkDrafts_swapped :
    (checkDrafts .commit swapped .empty).1 = .error [.about 1 .value (.missing .value)] := by
  cbv

theorem finding_on_swapped :
    (checkDrafts .commit swapped .empty).1 = .error [.about 1 .value (.missing .value)] ∧
      ∃ d place, (arranged swapped)[1]? = some (d, place) ∧
        d.HasFault place 1 (.about 1 .value (.missing .value)) :=
  ⟨checkDrafts_swapped,
    (findings_point_at_arranged_drafts checkDrafts_swapped List.mem_cons_self rfl).1 rfl⟩

/-- The finding names the second place, and the draft that was submitted there is a GUID. -/
theorem finding_not_at_submitted_draft :
    ¬ ∀ (mode : Mode) (drafts : List Draft) (cache : RuleCache) (findings : List Finding),
      (checkDrafts mode drafts cache).1 = .error findings →
        ∀ f ∈ findings, ∀ i, f.index = some i → ∃ d, drafts[i]? = some d ∧ d.HasFault i i f := by
  intro points
  obtain ⟨d, here, fault⟩ := points .commit swapped .empty _ checkDrafts_swapped _
    List.mem_cons_self 1 rfl
  cases here
  cases fault with
  | blank known => exact absurd known (by decide)

end Layout
end Mintmark
