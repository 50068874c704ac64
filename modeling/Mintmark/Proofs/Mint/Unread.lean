import Mintmark.Proofs.Layout.UnknownKinds
import Mintmark.Proofs.Mint.Recorded
import Mintmark.Store.Memory

/-!
# Parts that a kind does not read

Only fixed text reads its value, and neither fixed text nor a GUID reads its specifier. What stands
there all the same is submitted, stored and listed, but it decides nothing: two layouts that differ
in such parts alone are checked alike, ask the cache and the store for the same, and show the same
text or stop at the same finding.

An element is read in three places: by its check, by the key of its rule and by its generator. There
is one lemma for each, and the rest follows along the list.
-/

namespace Mintmark

open Format Store

namespace Element

/-- The elements differ at most in parts that their kind does not read. -/
structure SameInUse (e e' : Element) : Prop where
  kind : e.kind = e'.kind
  order : e.order = e'.order
  value : e.kind = .fixedText → e.value = e'.value
  format : e.kind ≠ .fixedText → e.kind ≠ .guid → e.format = e'.format

namespace SameInUse

variable {e e' : Element} (alike : e.SameInUse e')
include alike

theorem key : RuleKey.of e.kind e.formatText = RuleKey.of e'.kind e'.formatText := by
  rw [RuleKey.of, RuleKey.of, ← alike.kind]
  by_cases ignores : e.kind.ignoresFormat = true
  · rw [if_pos ignores, if_pos ignores]
  · have reads : e.format = e'.format := by
      apply alike.format <;> intro kind <;> rw [kind] at ignores <;> exact ignores rfl
    rw [formatText, formatText, reads]

theorem rule (cache : RuleCache) :
    cache.rule e.kind e.formatText = cache.rule e'.kind e'.formatText := by
  rw [RuleCache.rule, RuleCache.rule, alike.key]

theorem check (position : Nat) (cache : RuleCache) :
    e.check position cache = e'.check position cache := by
  have text : (e.kind.requiresValue && Text.allBlank e.valueText) =
      (e'.kind.requiresValue && Text.allBlank e'.valueText) := by
    rw [← alike.kind]
    by_cases fixed : e.kind = .fixedText
    · rw [valueText, valueText, alike.value fixed]
    · rw [Kind.requiresValue, beq_false_of_ne fixed, Bool.false_and, Bool.false_and]
  have bare : (e.kind.requiresFormat && e.formatText.isEmpty) =
      (e'.kind.requiresFormat && e'.formatText.isEmpty) := by
    rw [← alike.kind]
    by_cases requires : e.kind.requiresFormat = true
    · have reads : e.format = e'.format := by
        apply alike.format <;> intro kind <;> rw [kind] at requires <;> cases requires
      rw [formatText, formatText, reads]
    · rw [Bool.eq_false_of_not_eq_true requires, Bool.false_and, Bool.false_and]
  rw [Element.check, Element.check, text, bare, alike.rule]

theorem generate (now : Instant) (sequence : Option UInt64) (words : Words) :
    Raw.generate now sequence e words = Raw.generate now sequence e' words := by
  unfold Raw.generate
  rw [← alike.kind]
  cases kind : e.kind with
  | fixedText => rw [valueText, valueText, alike.value kind]
  | _ => rfl

end SameInUse
end Element

namespace Layout

/-- Element by element the layouts differ at most in parts that the kind does not read. -/
def SameInUse (l l' : Layout) : Prop := List.Forall₂ Element.SameInUse l.elements l'.elements

section

variable {es es' : List Element} (alike : List.Forall₂ Element.SameInUse es es')
include alike

theorem checkEach_of_sameInUse (position : Nat) (cache : RuleCache) :
    checkEach (fun i e => e.check i) position es cache =
      checkEach (fun i e => e.check i) position es' cache := by
  induction alike generalizing position cache with
  | nil => rfl
  | cons first _ ih => simp only [checkEach, first.check, ih]

theorem map_of_sameInUse {α : Type} {part : Element → α}
    (same : ∀ e e' : Element, e.SameInUse e' → part e = part e') : es.map part = es'.map part := by
  induction alike with
  | nil => rfl
  | cons first _ ih => rw [List.map_cons, List.map_cons, same _ _ first, ih]

end

/-- The check of the positions reads nothing else. -/
theorem checkOrders_eq_of_orders {es es' : List Element}
    (orders : es.map (·.order) = es'.map (·.order)) : checkOrders es = checkOrders es' := by
  have length : es.length = es'.length := by
    rw [← List.length_map (·.order), orders, List.length_map]
  have read (es : List Element) : checkOrders es =
      (es.map (·.order)).zipIdx.filterMap fun p =>
        if p.1 = p.2 then none else some (.about p.2 .order (.badOrder p.1 es.length)) := by
    rw [List.zipIdx_map, List.filterMap_map]
    rfl
  rw [read es, read es', orders, length]

namespace SameInUse

variable {l l' : Layout} (alike : l.SameInUse l')
include alike

theorem size_eq : l.size = l'.size := List.Forall₂.length_eq alike

theorem check (mode : Mode) (cache : RuleCache) : l.check mode cache = l'.check mode cache := by
  have orders := map_of_sameInUse alike fun _ _ first => first.order
  rw [Layout.check, Layout.check, checkEach_of_sameInUse alike, alike.size_eq,
    checkOrders_eq_of_orders orders]

theorem sequenceIndex?_eq : l.sequenceIndex? = l'.sequenceIndex? := by
  have kinds := map_of_sameInUse alike fun _ _ first => first.kind
  have read (l : Layout) :
      l.sequenceIndex? = (l.elements.map (·.kind)).findIdx? (· == .sequence) := by
    rw [List.findIdx?_map]
    rfl
  rw [read l, read l', kinds]

end SameInUse
end Layout

namespace Mint

variable {σ : Type}

theorem compileAll_of_sameInUse {es es' : List Element}
    (alike : List.Forall₂ Element.SameInUse es es') (position : Nat) (rules : RuleCache) :
    compileAll position es rules = compileAll position es' rules := by
  induction alike generalizing position rules with
  | nil => rfl
  | cons first _ ih => simp only [compileAll, first.rule, ih]

theorem assemble_of_sameInUse {es es' : List Element}
    (alike : List.Forall₂ Element.SameInUse es es') (now : Instant) (sequence : Option UInt64)
    (compiled : List Rule) (position : Nat) (words : Words) :
    assemble now sequence position (es.zip compiled) words =
      assemble now sequence position (es'.zip compiled) words := by
  induction alike generalizing compiled position words with
  | nil => rfl
  | cons first _ ih =>
    cases compiled with
    | nil => rfl
    | cons rule compiled => simp only [List.zip_cons_cons, assemble, first.generate, ih]

section

variable {l l' : Layout} (alike : l.SameInUse l')
include alike

theorem fill_of_sameInUse (m : Mint σ) (moment : Moment) (mode : Mode) (id? : Option InventoryId)
    (compiled : List Rule) (s : State σ) :
    m.fill moment mode id? l compiled s = m.fill moment mode id? l' compiled s := by
  simp only [fill, alike.sequenceIndex?_eq, assemble_of_sameInUse alike]

theorem render_of_sameInUse (m : Mint σ) (moment : Moment) (mode : Mode) (id? : Option InventoryId)
    (s : State σ) : m.render moment mode id? l s = m.render moment mode id? l' s := by
  simp only [render, compose, alike.check, compileAll_of_sameInUse alike, fill_of_sameInUse alike]

end

/-- Layouts that differ only in what their kinds do not read cannot be told apart, from whatever
state: the check finds the same and leaves the same rules in the cache, and a preview and a commit
answer the same, make the same calls to the store and leave the same state behind. -/
theorem unread_parts_decide_nothing {l l' : Layout} (alike : l.SameInUse l') :
    (∀ mode cache, l.check mode cache = l'.check mode cache) ∧
    ∀ (σ : Type) (m : Mint σ) (moment : Moment),
      (∀ id? s, m.renderPreview moment id? l s = m.renderPreview moment id? l' s) ∧
      (∀ id s, m.renderCommitted moment id l s = m.renderCommitted moment id l' s) ∧
      (∀ id? s, m.recorded.renderPreview moment id? l s =
        m.recorded.renderPreview moment id? l' s) ∧
      ∀ id s, m.recorded.renderCommitted moment id l s =
        m.recorded.renderCommitted moment id l' s := by
  refine ⟨alike.check, fun σ m moment => ⟨?_, ?_, ?_, ?_⟩⟩
  · exact fun id? s => render_of_sameInUse alike m moment .preview id? s
  · exact fun id s => render_of_sameInUse alike m moment .commit (some id) s
  · exact fun id? s => render_of_sameInUse alike m.recorded moment .preview id? s
  · exact fun id s => render_of_sameInUse alike m.recorded moment .commit (some id) s

/-- A layout with remarks in places that nobody reads. -/
def remarked : Layout := .ofList
  [{ kind := .fixedText, value := some "LOT-", format := some "D0" },
    { kind := .sequence, value := some "counts lots", format := some "D4" },
    { kind := .guid, value := some " ", format := some "yyyy" }]

/-- The same without the remarks. -/
def unremarked : Layout := .ofList
  [{ kind := .fixedText, value := some "LOT-" }, { kind := .sequence, format := some "D4" },
    { kind := .guid }]

theorem remarks_decide_nothing :
    remarked.SameInUse unremarked ∧ remarked ≠ unremarked ∧
    (∀ cache, remarked.check .commit cache = unremarked.check .commit cache) ∧
    ∀ (moment : Moment) (id : InventoryId) (s : State (Memory × List Asked)),
      (Mint.mk Memory.backend 1).recorded.renderCommitted moment id remarked s =
        (Mint.mk Memory.backend 1).recorded.renderCommitted moment id unremarked s := by
  have alike : remarked.SameInUse unremarked := by
    refine .cons ?_ (.cons ?_ (.cons ?_ .nil)) <;> constructor <;> decide
  have nothing := unread_parts_decide_nothing alike
  refine ⟨alike, by decide, nothing.1 .commit, fun moment => ?_⟩
  exact (nothing.2 Memory (.mk Memory.backend 1) moment).2.2.2

end Mint
end Mintmark
