import Mintmark.Layout.Check

/-!
# Layouts that pass the check for a commit

What the check looks for, said without the cache and without the order in which findings are listed:
a layout passes exactly if its length and its positions are in order and every element is complete
by itself. So the state of the cache never decides.
-/

namespace Mintmark

open Format

/-- The element has all that its kind asks for, and its specifier compiles. -/
structure Element.Complete (e : Element) : Prop where
  filled : e.kind.requiresValue = true → Text.allBlank e.valueText = false
  specified : e.kind.requiresFormat = true → e.formatText ≠ ""
  compiles : ∃ rule, Rule.compile e.kind e.formatText = .ok rule

theorem Element.check_eq_nil_iff (e : Element) (position : Nat) (cache : RuleCache) :
    (e.check position cache).1 = [] ↔ e.Complete := by
  have found := cache.rule_fst e.kind e.formatText
  unfold Element.check
  by_cases bare : (e.kind.requiresFormat && e.formatText.isEmpty) = true
  · rw [if_pos bare]
    simp only [List.append_eq_nil_iff, List.cons_ne_nil, and_false, false_iff]
    intro complete
    rw [Bool.and_eq_true, String.isEmpty_iff] at bare
    exact complete.specified bare.1 bare.2
  · rw [if_neg bare]
    have specified : e.kind.requiresFormat = true → e.formatText ≠ "" := by
      intro requires empty
      rw [requires, empty] at bare
      exact bare rfl
    have filled : (if (e.kind.requiresValue && Text.allBlank e.valueText) = true then
        [Finding.about position .value (.missing .value)] else []) = [] ↔
        (e.kind.requiresValue = true → Text.allBlank e.valueText = false) := by
      cases e.kind.requiresValue <;> cases Text.allBlank e.valueText <;> simp
    rcases answer : cache.rule e.kind e.formatText with ⟨_ | rule, rest⟩
    · rw [answer] at found
      simp only [List.append_eq_nil_iff, List.cons_ne_nil, and_false, false_iff]
      rintro ⟨-, -, rule, compiled⟩
      rw [compiled] at found
      cases found
    · rw [answer] at found
      exact ⟨fun clean => ⟨filled.mp clean, specified, rule, found.symm⟩,
        fun complete => filled.mpr complete.filled⟩

namespace Layout

/-- Checking one after another finds nothing exactly if there is nothing to find in any item,
whatever the position and the cache. -/
theorem checkEach_eq_nil_iff {α : Type}
    {check : Nat → α → RuleCache → List Finding × RuleCache} {clean : α → Prop}
    (each : ∀ position a cache, (check position a cache).1 = [] ↔ clean a)
    (position : Nat) (as : List α) (cache : RuleCache) :
    (checkEach check position as cache).1 = [] ↔ ∀ a ∈ as, clean a := by
  induction as generalizing position cache with
  | nil => simp [checkEach]
  | cons a as ih =>
    simp only [checkEach, List.append_eq_nil_iff, List.forall_mem_cons]
    exact and_congr (each position a cache) (ih ..)

theorem checkOrders_eq_nil_iff (elements : List Element) :
    checkOrders elements = [] ↔ ∀ (i : Nat) (e : Element), elements[i]? = some e → e.order = i := by
  simp only [checkOrders, List.filterMap_eq_nil_iff, Prod.forall, List.mem_zipIdx_iff_getElem?,
    ite_eq_left_iff, reduceCtorEq, imp_false, Decidable.not_not]
  exact ⟨fun h i e => h e i, fun h e i => h i e⟩

/-- Nothing stands in the way of taking a value for an identifier of this layout. -/
structure Committable (l : Layout) : Prop where
  nonempty : l.elements ≠ []
  bounded : l.size ≤ maxElements
  numbered : ∀ (i : Nat) (e : Element), l.elements[i]? = some e → e.order = i
  complete : ∀ e ∈ l.elements, e.Complete

theorem checkSize_commit_eq_nil_iff (l : Layout) :
    checkSize .commit l.size = [] ↔ l.elements ≠ [] ∧ l.size ≤ maxElements := by
  have count : checkCount l.size = [] ↔ l.size ≤ maxElements := by
    simp [checkCount]
  rw [checkSize, List.append_eq_nil_iff, count, and_comm]
  simp [size]

theorem check_commit_eq_nil_iff (l : Layout) (cache : RuleCache) :
    (l.check .commit cache).1 = [] ↔ l.Committable := by
  have elements := checkEach_eq_nil_iff (fun i e => Element.check_eq_nil_iff e i) 0 l.elements cache
  simp only [check, List.append_eq_nil_iff, checkSize_commit_eq_nil_iff, checkOrders_eq_nil_iff,
    elements]
  constructor
  · rintro ⟨⟨⟨nonempty, bounded⟩, numbered⟩, complete⟩
    exact ⟨nonempty, bounded, numbered, complete⟩
  · rintro ⟨nonempty, bounded, numbered, complete⟩
    exact ⟨⟨⟨nonempty, bounded⟩, numbered⟩, complete⟩

end Layout
end Mintmark
