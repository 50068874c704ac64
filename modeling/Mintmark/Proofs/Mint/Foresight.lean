import Mathlib.Logic.Function.Iterate
import Mintmark.Proofs.Mint.Acceptance
import Mintmark.Proofs.Store.Reached

/-!
# Previews foretell commits

A preview looks at the value that a commit would take and does with it what the commit would do. So
at the same instant and with the same random words both give the same text, as long as the counter
has a value to give.
-/

namespace Mintmark.Mint

open Format Store

variable {σ : Type}

/-- The state after some previews of one layout. -/
def previewed (m : Mint σ) (moment : Moment) (id : InventoryId) (l : Layout) (n : Nat) :
    State σ → State σ :=
  (fun s => (m.renderPreview moment (some id) l s).2)^[n]

/-- The previews of a layout show a text, change nothing in the store, and the next identifier is
that text. All sequence elements show the value that is reported as the next one. Only if it is the
greatest there is, there is no identifier with it. -/
structure Foretold (m : Mint σ) (moment : Moment) (id : InventoryId) (l : Layout) (s : State σ)
    (next : UInt64) (text : String) : Prop where
  spelled : ∃ pieces, l.Spells moment.now (l.sequenceIndex?.map fun _ => next) text pieces
  unchanged : ∀ n, (m.previewed moment id l n s).store = s.store
  reported : ∀ n, ∃ made, (m.sequence id (m.previewed moment id l n s)).1 = .ok (next, made)
  shown : ∀ n, (m.renderPreview moment (some id) l (m.previewed moment id l n s)).1 = .ok text
  committed : ∀ n wall, Number.fits64 wall.millis = true →
    (next = Counter.maxValue → l.sequenceIndex? = none) →
      (m.renderCommitted { moment with wall } id l (m.previewed moment id l n s)).1 = .ok text
  exhausted : ∀ n wall, Number.fits64 wall.millis = true → next = Counter.maxValue →
    ∀ index, l.sequenceIndex? = some index →
      (m.renderCommitted { moment with wall } id l (m.previewed moment id l n s)).1 =
        .error (noAllocation index (.overflow id.text))

section

variable {m : Mint σ} {moment : Moment} {id : InventoryId} {l : Layout} {compiled : List Rule}
  {s : State σ} {next : UInt64}

theorem fill_preview (looked : m.backend.peek id m.start s.store = (.ok next, s.store)) :
    m.fill moment .preview (some id) l compiled s =
      (assemble moment.now (l.sequenceIndex?.map fun _ => next) 0 (l.elements.zip compiled)
        moment.words, s) := by
  simp only [fill]
  cases l.sequenceIndex? with
  | none => rfl
  | some index =>
    simp only [sequenceValue, looked]
    rfl

theorem fill_commit (taken : l.sequenceIndex? ≠ none →
      (m.backend.allocate id m.start moment.wall.millis s.store).1 = .ok next) :
    (m.fill moment .commit (some id) l compiled s).1 =
      assemble moment.now (l.sequenceIndex?.map fun _ => next) 0 (l.elements.zip compiled)
        moment.words := by
  simp only [fill]
  cases place : l.sequenceIndex? with
  | none => rfl
  | some index =>
    rcases answer : m.backend.allocate id m.start moment.wall.millis s.store with ⟨result, store⟩
    rw [place, answer] at taken
    cases taken (Option.some_ne_none index)
    simp only [sequenceValue, answer]
    rfl

/-- A layout in order is rendered with rules that depend on neither the mode nor the cache. -/
theorem render_of_committable (fit : l.Committable) :
    ∃ compiled, List.Forall₂ Element.Compiled l.elements compiled ∧
      ∀ {σ : Type} (m : Mint σ) moment mode id? (s : State σ), ∃ rules,
        (m.render moment mode id? l s).1 = (m.fill moment mode id? l compiled { s with rules }).1 ∧
          (m.render moment mode id? l s).2.store =
            (m.fill moment mode id? l compiled { s with rules }).2.store := by
  obtain ⟨compiled, all, value⟩ := value_of_committable fit
  refine ⟨compiled, all, fun m moment mode id? s => ⟨((inquiry mode l).alone s.rules).2, ?_⟩⟩
  simp only [render, compose_eq, value, conclude, and_self]

/-- For one value a layout in order has one text, which a preview shows when it sees this value and a
commit when it gets it. -/
theorem exists_text (fit : l.Committable) (m : Mint σ) (moment : Moment) (id : InventoryId)
    (next : UInt64) :
    ∃ text,
      (∃ pieces, l.Spells moment.now (l.sequenceIndex?.map fun _ => next) text pieces) ∧
      (∀ s, m.backend.peek id m.start s.store = (.ok next, s.store) →
        (m.renderPreview moment (some id) l s).1 = .ok text ∧
          (m.renderPreview moment (some id) l s).2.store = s.store) ∧
      ∀ s wall, (l.sequenceIndex? ≠ none →
          (m.backend.allocate id m.start wall.millis s.store).1 = .ok next) →
        (m.renderCommitted { moment with wall } id l s).1 = .ok text := by
  obtain ⟨compiled, all, rendered⟩ := render_of_committable fit
  have given : ∀ e ∈ l.elements, e.kind = .sequence →
      (l.sequenceIndex?.map fun _ => next) ≠ none := by
    intro e member kind
    rw [ne_eq, Option.map_eq_none_iff, l.sequenceIndex?_eq_none_iff]
    exact fun absent => absent e member kind
  obtain ⟨pieces, assembled, spelled⟩ := assemble_ok moment.now _ all given 0 moment.words
  refine ⟨String.join pieces, ⟨pieces, Layout.spells_join spelled⟩, ?_, ?_⟩
  · intro s looked
    obtain ⟨rules, answer, store⟩ := rendered m moment .preview (some id) s
    rw [renderPreview, answer, store, fill_preview (s := { s with rules }) looked]
    exact ⟨assembled, rfl⟩
  · intro s wall taken
    obtain ⟨rules, answer, -⟩ := rendered m { moment with wall } .commit (some id) s
    exact (answer.trans (fill_commit taken)).trans assembled

theorem store_previewed (seen : ∀ t : State σ, t.store = s.store →
      (m.renderPreview moment (some id) l t).2.store = t.store) (n : Nat) :
    (m.previewed moment id l n s).store = s.store := by
  induction n with
  | zero => rfl
  | succ n ih =>
    rw [previewed, Function.iterate_succ_apply']
    exact (seen _ ih).trans ih

theorem foretold_of_standsAt (fit : l.Committable) (m : Mint σ) (moment : Moment)
    (stands : m.backend.StandsAt id m.start next s.store) :
    ∃ text, Foretold m moment id l s next text := by
  obtain ⟨text, spelled, preview, commit⟩ := exists_text fit m moment id next
  have looked (t : State σ) (same : t.store = s.store) :
      m.backend.peek id m.start t.store = (.ok next, t.store) := by
    rw [same, stands.peek]
  have unchanged (n : Nat) : (m.previewed moment id l n s).store = s.store :=
    store_previewed (fun t same => (preview t (looked t same)).2) n
  refine ⟨text, spelled, unchanged, ?_, ?_, ?_, ?_⟩
  · intro n
    obtain ⟨found, answer, rfl⟩ := stands.counter
    rw [sequence, andThen, call, unchanged n, answer]
    cases found with
    | none => exact ⟨false, rfl⟩
    | some counter => exact ⟨true, rfl⟩
  · exact fun n => (preview _ (looked _ (unchanged n))).1
  · intro n wall fits room
    refine commit _ wall fun counted => ?_
    rw [unchanged n]
    exact (stands.allocate _ fits).2 fun full => counted (room full)
  · intro n wall fits full index place
    have overflow := (stands.allocate _ fits).1 full
    rw [← unchanged n] at overflow
    exact renderCommitted_of_error fit place (Prod.ext overflow rfl)

end

/-- In memory, and in a folder after whatever has happened to it, the previews of a layout in order
show what the next commit at the same instant with the same words gives. -/
theorem previews_foretell_commits (start : UInt64) (moment : Moment) (id : InventoryId) {l : Layout}
    (fit : l.Committable) :
    (∀ s : State Memory, ∃ next text, Foretold (inMemory start) moment id l s next text) ∧
    ∀ (f : Folder) (s : State Disk), f.Reached s.store →
      ∃ next text, Foretold (inFolder f start) moment id l s next text := by
  constructor
  · intro s
    exact ⟨_, foretold_of_standsAt fit (inMemory start) moment (s.store.standsAt id start)⟩
  · intro f s reached
    obtain ⟨next, stands⟩ := reached.legible.standsAt id start
    exact ⟨next, foretold_of_standsAt fit (inFolder f start) moment stands⟩

/-- A mark and a number of four digits. -/
def marked : Layout :=
  .ofList [{ kind := .fixedText, value := some "P-" }, { kind := .sequence, format := some "D4" }]

theorem committable_marked : marked.Committable :=
  (marked.check_commit_eq_nil_iff .empty).mp (by decide)

def arrival : Moment := ⟨⟨1700000000, 0⟩, ⟨1700000000, 0⟩, .cycle []⟩

/-- No value is left for the pallets. -/
def usedUp : Memory := .put .empty pallets ⟨pallets, Counter.maxValue, 9, 0, 0⟩ (by decide)

theorem pallets_foretold :
    ((inMemory 5).renderCommitted arrival pallets marked
        ((inMemory 5).previewed arrival pallets marked 2 { store := .empty })).1 = .ok "P-0005" ∧
      ((inMemory 5).renderCommitted arrival pallets marked { store := usedUp }).1 =
        .error (noAllocation 1 (.overflow "pallets")) ∧
      ∃ next text, Foretold (inFolder ⟨["data"], "data"⟩ 5) arrival pallets marked
        { store := ((Folder.mk ["data"] "data").prepare .empty).2 } next text := by
  have foretell := previews_foretell_commits 5 arrival pallets committable_marked
  refine ⟨?_, ?_, ?_⟩
  · obtain ⟨next, text, foretold⟩ := foretell.1 { store := .empty }
    have seen : ((inMemory 5).renderPreview arrival (some pallets) marked { store := .empty }).1 =
        .ok "P-0005" := by cbv
    cases seen.symm.trans (foretold.shown 0)
    obtain ⟨made, reported⟩ := foretold.reported 0
    cases reported
    exact foretold.committed 2 arrival.wall (by decide) (by decide)
  · obtain ⟨next, text, foretold⟩ := foretell.1 { store := usedUp }
    obtain ⟨made, reported⟩ := foretold.reported 0
    cases reported
    exact foretold.exhausted 0 arrival.wall (by decide) rfl 1 (by decide)
  · exact foretell.2 _ _ (.vacant fun _ => Folder.vacant_of_prepare_empty rfl)

end Mintmark.Mint
