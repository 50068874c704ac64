import Mintmark.Proofs.Format.Numerals
import Mintmark.Proofs.Mint.Pieces
import Mintmark.Proofs.Mint.Recorded

/-!
# What a render takes from the counter

A committed render asks the store for one value if the layout passes the check and shows the
counter, and for nothing otherwise. All that could go wrong with the layout has been ruled out by
then, so a value that was taken is always shown, and in every sequence element the same one.
-/

namespace Mintmark

open Format Store

namespace Layout

/-- The first element that shows the counter stands at this position. -/
structure FirstSequence (l : Layout) (index : Nat) : Prop where
  here : ∃ e, l.elements[index]? = some e ∧ e.kind = .sequence
  before : ∀ i < index, ∀ e : Element, l.elements[i]? = some e → e.kind ≠ .sequence

theorem firstSequence_of_sequenceIndex? {l : Layout} {index : Nat}
    (found : l.sequenceIndex? = some index) : l.FirstSequence index := by
  obtain ⟨bound, here, before⟩ := List.findIdx?_eq_some_iff_getElem.mp found
  refine ⟨⟨l.elements[index], List.getElem?_eq_getElem bound, by simpa using here⟩, ?_⟩
  intro i earlier e there kind
  obtain ⟨inside, rfl⟩ := List.getElem?_eq_some_iff.mp there
  exact before i earlier (by simp [kind])

/-- The text is the pieces of the elements, and each sequence element shows the value, which can be
read back from its piece. -/
structure Spells (l : Layout) (now : Instant) (sequence : Option UInt64) (text : String)
    (pieces : List String) : Prop where
  joined : text = String.join pieces
  shown : List.Forall₂ (Element.Shows now sequence) l.elements pieces
  same : ∀ value ∈ sequence, ∀ (i : Nat) (e : Element) (piece : String),
    l.elements[i]? = some e → pieces[i]? = some piece → e.kind = .sequence →
      ∃ rule, NumericRule.parse e.formatText.toList = .ok rule ∧
        piece = String.ofList (rule.text value.toNat) ∧
        Text.readDigits? rule.radix.base piece.toList = some value.toNat

theorem spells_join {l : Layout} {now : Instant} {sequence : Option UInt64} {pieces : List String}
    (shown : List.Forall₂ (Element.Shows now sequence) l.elements pieces) :
    l.Spells now sequence (String.join pieces) pieces := by
  refine ⟨rfl, shown, ?_⟩
  rintro value member i e piece here there kind
  obtain ⟨bound, rfl⟩ := List.getElem?_eq_some_iff.mp here
  obtain ⟨inside, rfl⟩ := List.getElem?_eq_some_iff.mp there
  rw [Option.mem_def.mp member] at shown
  obtain ⟨rule, parsed, written⟩ := Element.piece_of_sequence kind (shown.get bound inside)
  rw [List.get_eq_getElem] at written
  refine ⟨rule, parsed, written, ?_⟩
  rw [written, String.toList_ofList, rule.readDigits?_text]

end Layout

namespace Mint

variable {σ : Type}

/-- What a committed render answers, with the calls to the store that it makes on the way. The store
is given by its answer to a request for a value. -/
inductive Outcome (m : Mint σ) (moment : Moment) (id : InventoryId) (l : Layout) (rules : RuleCache)
    (given : Except StoreError UInt64) : Except Finding String → List Asked → Prop
  | refused {finding : Finding} {findings : List Finding} (unfit : ¬ l.Committable)
      (found : (l.check .commit rules).1 = finding :: findings) :
      Outcome m moment id l rules given (.error finding) []
  | uncounted {text : String} {pieces : List String} (fit : l.Committable)
      (absent : ∀ e ∈ l.elements, e.kind ≠ .sequence)
      (spells : l.Spells moment.now none text pieces) :
      Outcome m moment id l rules given (.ok text) []
  | counted {index : Nat} {value : UInt64} {text : String} {pieces : List String}
      (fit : l.Committable) (first : l.FirstSequence index) (answer : given = .ok value)
      (spells : l.Spells moment.now (some value) text pieces) :
      Outcome m moment id l rules given (.ok text)
        [.allocate id m.start moment.wall.millis (.ok value)]
  | unanswered {index : Nat} {error : StoreError}
      (fit : l.Committable) (first : l.FirstSequence index) (answer : given = .error error) :
      Outcome m moment id l rules given
        (.error { index := some index, problem := .noAllocation error.message })
        [.allocate id m.start moment.wall.millis (.error error)]

theorem compose_of_committable {l : Layout} (fit : l.Committable) (m : Mint σ) (moment : Moment)
    (id? : Option InventoryId) (s : State σ) :
    ∃ compiled rules, List.Forall₂ Element.Compiled l.elements compiled ∧
      m.compose moment .commit id? l s = m.fill moment .commit id? l compiled { s with rules } := by
  have clean := (l.check_commit_eq_nil_iff s.rules).mpr fit
  rcases checked : l.check .commit s.rules with ⟨findings, rest⟩
  rw [checked] at clean
  cases clean
  obtain ⟨compiled, done, all⟩ := compileAll_ok fit.complete 0 rest
  rcases answer : compileAll 0 l.elements rest with ⟨result, rules⟩
  rw [answer] at done
  cases done
  refine ⟨compiled, rules, all, ?_⟩
  simp only [compose, checked, answer]

theorem compose_of_not_committable {l : Layout} (unfit : ¬ l.Committable) (m : Mint σ)
    (moment : Moment) (id? : Option InventoryId) (s : State σ) :
    ∃ finding findings rules, (l.check .commit s.rules).1 = finding :: findings ∧
      m.compose moment .commit id? l s = (.error finding, { s with rules }) := by
  rw [← l.check_commit_eq_nil_iff s.rules] at unfit
  rcases checked : l.check .commit s.rules with ⟨_ | ⟨finding, findings⟩, rest⟩
  · rw [checked] at unfit
    exact absurd rfl unfit
  · refine ⟨finding, findings, rest, rfl, ?_⟩
    simp only [compose, checked]

/-- Only the sequence elements ask for a value, and only once for all of them. -/
theorem fill_outcome {l : Layout} (fit : l.Committable) {compiled : List Rule}
    (all : List.Forall₂ Element.Compiled l.elements compiled) (m : Mint σ) (moment : Moment)
    (id : InventoryId) (rules : RuleCache) (s : State (σ × List Asked)) :
    let done := m.recorded.fill moment .commit (some id) l compiled s
    ∃ asked, done.2.store.2 = s.store.2 ++ asked ∧
      Outcome m moment id l rules
        (m.backend.allocate id m.start moment.wall.millis s.store.1).1 done.1 asked := by
  cases place : l.sequenceIndex? with
  | none =>
    have absent := l.sequenceIndex?_eq_none_iff.mp place
    obtain ⟨pieces, assembled, shown⟩ := assemble_ok moment.now none all
      (fun e member kind => absurd kind (absent e member)) 0 moment.words
    refine ⟨[], ?_, ?_⟩ <;> simp only [fill, place]
    · exact (List.append_nil _).symm
    · rw [assembled]
      exact .uncounted fit absent (Layout.spells_join shown)
  | some index =>
    have first := Layout.firstSequence_of_sequenceIndex? place
    rcases given : m.backend.allocate id m.start moment.wall.millis s.store.1 with ⟨answer, store⟩
    have noted : m.recorded.backend.allocate id m.recorded.start moment.wall.millis s.store =
        (answer, store, s.store.2 ++ [.allocate id m.start moment.wall.millis answer]) := by
      simp only [recorded, Backend.recorded, Call.noted, given]
    cases answer with
    | error error =>
      rw [fill_of_error _ place noted]
      exact ⟨_, rfl, .unanswered fit first rfl⟩
    | ok value =>
      obtain ⟨pieces, shown, filled⟩ := fill_of_allocate all place noted
      rw [filled]
      exact ⟨_, rfl, .counted fit first rfl (Layout.spells_join shown)⟩

/-- The calls that were made between two states take no value. -/
def Untaken (s t : State (σ × List Asked)) : Prop :=
  ∃ asked, t.store.2 = s.store.2 ++ asked ∧ ∀ call ∈ asked, call.allocates = false

theorem untaken_of_store_eq {s t : State (σ × List Asked)} (same : t.store = s.store) :
    Untaken s t :=
  ⟨[], by rw [same, List.append_nil], fun _ member => absurd member List.not_mem_nil⟩

theorem untaken_fill (m : Mint σ) (moment : Moment) (id? : Option InventoryId) (l : Layout)
    (compiled : List Rule) (s : State (σ × List Asked)) :
    Untaken s (m.recorded.fill moment .preview id? l compiled s).2 := by
  unfold fill
  cases l.sequenceIndex? with
  | none => exact untaken_of_store_eq rfl
  | some index =>
    cases id? with
    | none => exact untaken_of_store_eq rfl
    | some id =>
      simp only [sequenceValue, recorded, Backend.recorded, Call.noted]
      refine ⟨[.peek id m.start (m.backend.peek id m.start s.store.1).1], ?_, ?_⟩
      · cases (m.backend.peek id m.start s.store.1).1 <;> rfl
      · intro call member
        rw [List.mem_singleton.mp member]
        rfl

theorem untaken_preview (m : Mint σ) (moment : Moment) (id? : Option InventoryId) (l : Layout)
    (s : State (σ × List Asked)) : Untaken s (m.recorded.renderPreview moment id? l s).2 := by
  simp only [renderPreview, render, compose]
  rcases l.check .preview s.rules with ⟨_ | ⟨finding, findings⟩, rest⟩
  · dsimp only
    rcases compileAll 0 l.elements rest with ⟨_ | compiled, rules⟩
    · exact untaken_of_store_eq rfl
    · exact untaken_fill m moment id? l compiled { s with rules }
  · exact untaken_of_store_eq rfl

/-- Over any store, with any cache and for any layout: a committed render asks for at most one
value, only if the layout is in order and shows the counter; it shows the value it was given in every
sequence element, and fails at the first of them if it was given none. A preview asks for no value.
The record leaves answers and stores as they are. -/
theorem render_takes_at_most_one_value (m : Mint σ) (moment : Moment) (l : Layout)
    (s : State (σ × List Asked)) :
    ((l.check .commit s.rules).1 = [] ↔ l.Committable) ∧
    (∀ id, let done := m.recorded.renderCommitted moment id l s
      plainly done = m.renderCommitted moment id l s.plain ∧
        ∃ asked, done.2.store.2 = s.store.2 ++ asked ∧
          Outcome m moment id l s.rules
            (m.backend.allocate id m.start moment.wall.millis s.store.1).1 done.1 asked) ∧
    (∀ id?, let done := m.recorded.renderPreview moment id? l s
      plainly done = m.renderPreview moment id? l s.plain ∧ Untaken s done.2) := by
  refine ⟨l.check_commit_eq_nil_iff s.rules, fun id => ⟨render_recorded .., ?_⟩,
    fun id? => ⟨render_recorded .., ?_⟩⟩
  · by_cases fit : l.Committable
    · obtain ⟨compiled, rules, all, composed⟩ :=
        compose_of_committable fit m.recorded moment (some id) s
      obtain ⟨asked, noted, outcome⟩ := fill_outcome fit all m moment id s.rules { s with rules }
      refine ⟨asked, ?_, ?_⟩ <;> simp only [renderCommitted, render, composed]
      · exact noted
      · exact outcome
    · obtain ⟨finding, findings, rules, found, composed⟩ :=
        compose_of_not_committable fit m.recorded moment (some id) s
      refine ⟨[], ?_, ?_⟩ <;> simp only [renderCommitted, render, composed]
      · exact (List.append_nil _).symm
      · exact .refused fit found
  · exact untaken_preview m moment id? l s

end Mint
end Mintmark
