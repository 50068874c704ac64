import Mathlib.Data.List.Forall2
import Mintmark.Mint.Render
import Mintmark.Proofs.Format.Specifiers
import Mintmark.Proofs.Layout.Committable
import Mintmark.Proofs.Mint.Draws

/-!
# The pieces of an identifier

An identifier is the pieces of its elements, one behind the other. With a rule for every element and
a value for those that show the counter, putting the pieces together cannot fail.
-/

namespace Mintmark

open Format Store

namespace Element

def Compiled (e : Element) (rule : Rule) : Prop := Rule.compile e.kind e.formatText = .ok rule

/-- The element may contribute this text: a value that it can give, under its rule. -/
def Shows (now : Instant) (sequence : Option UInt64) (e : Element) (piece : String) : Prop :=
  ∃ words raw rest rule, Raw.generate now sequence e words = (.ok raw, rest) ∧
    e.Compiled rule ∧ piece = raw.render rule

/-- Elements that show the counter need a value to show; all others always give one. -/
theorem generate_ok (now : Instant) {sequence : Option UInt64} {e : Element}
    (given : e.kind = .sequence → sequence ≠ none) (words : Words) :
    ∃ raw rest, Raw.generate now sequence e words = (.ok raw, rest) := by
  cases drawn : e.kind.drawLimit? with
  | some limit =>
    obtain ⟨n, rest, generated, -⟩ := Raw.generate_of_drawLimit now sequence words drawn
    exact ⟨.number n, rest, generated⟩
  | none =>
    unfold Raw.generate
    cases kind : e.kind with
    | sequence =>
      obtain ⟨value, rfl⟩ := Option.ne_none_iff_exists'.mp (given kind)
      exact ⟨_, _, rfl⟩
    | fixedText | guid | dateTime => exact ⟨_, _, rfl⟩
    | random6Digit | random9Digit | random20Bit | random32Bit =>
      rw [kind] at drawn
      cases drawn

/-- A sequence element shows the number it was given and no other. -/
theorem piece_of_sequence {now : Instant} {value : UInt64} {e : Element} {piece : String}
    (kind : e.kind = .sequence) (shows : e.Shows now (some value) piece) :
    ∃ rule, NumericRule.parse e.formatText.toList = .ok rule ∧
      piece = String.ofList (rule.text value.toNat) := by
  obtain ⟨words, raw, rest, rule, generated, compiled, rfl⟩ := shows
  obtain ⟨numeric, rfl, parsed⟩ := Rule.exists_numeric_of_compile (by rw [kind]; rfl) compiled
  refine ⟨numeric, parsed, ?_⟩
  simp only [Raw.generate, kind, Prod.mk.injEq, Except.ok.injEq] at generated
  rw [← generated.1]
  rfl

end Element

namespace Mint

theorem compileAll_ok {elements : List Element} (complete : ∀ e ∈ elements, e.Complete)
    (position : Nat) (cache : RuleCache) :
    ∃ rules, (compileAll position elements cache).1 = .ok rules ∧
      List.Forall₂ Element.Compiled elements rules := by
  induction elements generalizing position cache with
  | nil => exact ⟨[], rfl, .nil⟩
  | cons e es ih =>
    obtain ⟨rule, compiled⟩ := (complete e List.mem_cons_self).compiles
    have found := cache.rule_fst e.kind e.formatText
    rw [compiled] at found
    rcases answer : cache.rule e.kind e.formatText with ⟨result, rest⟩
    rw [answer] at found
    obtain ⟨rules, done, all⟩ :=
      ih (fun e member => complete e (List.mem_cons_of_mem _ member)) (position + 1) rest
    refine ⟨rule :: rules, ?_, .cons compiled all⟩
    cases found
    simp only [compileAll, answer, done]
    rfl

theorem assemble_ok (now : Instant) (sequence : Option UInt64) {elements : List Element}
    {rules : List Rule} (compiled : List.Forall₂ Element.Compiled elements rules)
    (given : ∀ e ∈ elements, e.kind = .sequence → sequence ≠ none)
    (position : Nat) (words : Words) :
    ∃ pieces, assemble now sequence position (elements.zip rules) words =
        .ok (String.join pieces) ∧
      List.Forall₂ (Element.Shows now sequence) elements pieces := by
  induction compiled generalizing position words with
  | nil => exact ⟨[], rfl, .nil⟩
  | @cons e rule es rules compiled _ ih =>
    obtain ⟨raw, rest, generated⟩ :=
      Element.generate_ok now (given e List.mem_cons_self) words
    obtain ⟨pieces, assembled, shown⟩ :=
      ih (fun e member => given e (List.mem_cons_of_mem _ member)) (position + 1) rest
    refine ⟨raw.render rule :: pieces, ?_,
      .cons ⟨words, raw, rest, rule, generated, compiled, rfl⟩ shown⟩
    simp only [List.zip_cons_cons, assemble, generated, assembled]
    rw [String.join_cons]
    rfl

/-- With a value from the store nothing is left that could fail. -/
theorem fill_of_allocate {σ : Type} {m : Mint σ} {moment : Moment} {id : InventoryId} {l : Layout}
    {compiled : List Rule} (all : List.Forall₂ Element.Compiled l.elements compiled) {index : Nat}
    (place : l.sequenceIndex? = some index) {s : State σ} {value : UInt64} {store : σ}
    (answer : m.backend.allocate id m.start moment.wall.millis s.store = (.ok value, store)) :
    ∃ pieces, List.Forall₂ (Element.Shows moment.now (some value)) l.elements pieces ∧
      m.fill moment .commit (some id) l compiled s =
        (.ok (String.join pieces), { s with store, tally := s.tally.addAllocation }) := by
  obtain ⟨pieces, assembled, shown⟩ := assemble_ok moment.now (some value) all
    (fun _ _ _ => Option.some_ne_none value) 0 moment.words
  refine ⟨pieces, shown, ?_⟩
  simp only [fill, place, sequenceValue, answer, assembled]

theorem fill_of_error {σ : Type} {m : Mint σ} {moment : Moment} {id : InventoryId} {l : Layout}
    (compiled : List Rule) {index : Nat} (place : l.sequenceIndex? = some index) {s : State σ}
    {error : StoreError} {store : σ}
    (answer : m.backend.allocate id m.start moment.wall.millis s.store = (.error error, store)) :
    m.fill moment .commit (some id) l compiled s =
      (.error (noAllocation index error), { s with store }) := by
  simp only [fill, place, sequenceValue, answer]

end Mint

namespace Layout

theorem sequenceIndex?_eq_none_iff (l : Layout) :
    l.sequenceIndex? = none ↔ ∀ e ∈ l.elements, e.kind ≠ .sequence := by
  simp [sequenceIndex?]

theorem exists_sequenceIndex? {l : Layout} (counted : ∃ e ∈ l.elements, e.kind = .sequence) :
    ∃ index, l.sequenceIndex? = some index := by
  cases place : l.sequenceIndex? with
  | some index => exact ⟨index, rfl⟩
  | none =>
    obtain ⟨e, member, kind⟩ := counted
    exact absurd kind (l.sequenceIndex?_eq_none_iff.mp place e member)

end Layout
end Mintmark
