import Mintmark.Proofs.Memory.Cells
import Mintmark.Proofs.Memory.Failures
import Mintmark.Proofs.Mint.Stock

/-!
# All or nothing

What a mint is asked to do on a store in memory it does as a whole, or it refuses and leaves the
store as it was. What it does is little: a save and a removal are about the layout of one inventory,
an identifier takes at most one value of one counter, and nothing else changes anything.
-/

namespace Mintmark

theorem Table.erase_of_not_found {Key Value : Type} [DecidableEq Key] {t : Table Key Value}
    {key : Key} (missing : t.find? key = none) : t.erase key = t := by
  obtain ⟨entries⟩ := t
  rw [erase, mk.injEq, List.filter_eq_self]
  intro e member
  have away : e.1 ≠ key := (bne_iff_ne.mp (List.lookup_eq_none_iff.mp missing e member)).symm
  exact decide_eq_true away

namespace Store.Memory

variable {m n : Memory} {id : InventoryId} {start value : UInt64} {now : Int}

/-- One value of the inventory has been taken, the first one being the start value, and that is
all. -/
structure Taken (id : InventoryId) (start : UInt64) (m n : Memory) : Prop where
  layouts : n.layouts = m.layouts
  others : ∀ other ≠ id, n.counters.find? other = m.counters.find? other
  next : (n.peek id start).toNat = (m.peek id start).toNat + 1
  version : n.version id = m.version id + 1

theorem version_met (m : Memory) (id : InventoryId) (start : UInt64) (now : Int) :
    (m.met id start now).version.toNat = m.version id := by
  unfold met version
  cases m.counters.find? id <;> rfl

theorem taken_of_allocate (given : (allocate id start now m).1 = .ok value) :
    Taken id start m (allocate id start now m).2 := by
  rw [allocate_fst] at given
  cases advanced : (m.met id start now).advance? now with
  | none =>
    rw [advanced] at given
    cases given
  | some pair =>
    obtain ⟨value, counter⟩ := pair
    have here : (allocate id start now m).2.counters.find? id = some counter := by
      rw [find?_allocate, if_pos rfl, advanced]
      rfl
    constructor
    · exact layouts_allocate m id start now
    · intro other away
      rw [find?_allocate, if_neg away]
    · rw [← next_met m id start now, ← (Counter.toNat_next_of_advance? advanced).2, peek, here]
      rfl
    · rw [← version_met m id start now, ← Counter.toNat_version_of_advance? advanced, version, here]
      rfl

end Store.Memory

namespace Mint

open Store

variable {σ ε α β : Type}

/-- Something is carried out, and then this is true of the store, or it fails and leaves the store
as it was. -/
inductive AllOrNothing (s : State σ) (Q : σ → Prop) : Except ε α × State σ → Prop
  | nothing {e : ε} {t : State σ} (same : t.store = s.store) : AllOrNothing s Q (.error e, t)
  | all {a : α} {t : State σ} (holds : Q t.store) : AllOrNothing s Q (.ok a, t)

variable {s : State σ} {Q : σ → Prop}

theorem allOrNothing_of_store_eq {done : Except ε α × State σ} (same : done.2.store = s.store)
    (holds : Q s.store) : AllOrNothing s Q done := by
  obtain ⟨e | a, t⟩ := done
  · exact .nothing same
  · exact .all (same ▸ holds)

theorem AllOrNothing.mapError {ε' : Type} (f : ε → ε') {done : Except ε α × State σ}
    (holds : AllOrNothing s Q done) : AllOrNothing s Q (done.1.mapError f, done.2) := by
  cases holds with
  | nothing same => exact .nothing same
  | all holds => exact .all holds

theorem AllOrNothing.imp {R : σ → Prop} {done : Except ε α × State σ}
    (holds : AllOrNothing s Q done) (weaker : ∀ n, Q n → R n) : AllOrNothing s R done := by
  cases holds with
  | nothing same => exact .nothing same
  | all holds => exact .all (weaker _ holds)

/-- An action whose first part leaves the store alone. -/
theorem allOrNothing_andThen {first : Action σ α} {next : α → Action σ β}
    (same : (first s).2.store = s.store)
    (goes : ∀ a t, first s = (.ok a, t) → AllOrNothing t Q (next a t)) :
    AllOrNothing s Q (andThen first next s) := by
  unfold andThen
  rcases made : first s with ⟨refusal | a, t⟩
  · rw [made] at same
    exact .nothing same
  · rw [made] at same
    have rest := goes a t made
    dsimp only
    rcases after : next a t with ⟨refusal | b, u⟩ <;> rw [after] at rest
    · cases rest with
      | nothing kept => exact .nothing (kept.trans same)
    · cases rest with
      | all holds => exact .all holds

section

variable {start : UInt64} {s : State Memory} {Q : Memory → Prop} {id : InventoryId}

/-- The layout that is used for an inventory: that of the drafts, or else the stored one. -/
def Uses (m : Memory) (id : InventoryId) : Option (List Draft) → Layout → Prop
  | some drafts, layout => Layout.ofDrafts drafts = .ok layout
  | none, layout => ∃ stored, m.layouts.find? id = some stored ∧ stored.layout = layout

theorem stored_snd (start : UInt64) (id : InventoryId) (s : State Memory) :
    ((inMemory start).stored id s).2 = s := by
  simp only [stored, andThen, call, inMemory, Memory.backend]
  cases s.store.layouts.find? id <;> rfl

theorem layoutFor_snd (start : UInt64) (id : InventoryId) (drafts : Option (List Draft))
    (s : State Memory) : ((inMemory start).layoutFor id drafts s).2 = s := by
  cases drafts with
  | some drafts => rfl
  | none =>
    have still := stored_snd start id s
    rw [layoutFor, andThen]
    rcases found : (inMemory start).stored id s with ⟨refusal | stored, t⟩ <;> rw [found] at still
    · exact still
    · exact still

theorem uses_of_layoutFor {drafts : Option (List Draft)} {layout : Layout}
    (found : ((inMemory start).layoutFor id drafts s).1 = .ok layout) :
    Uses s.store id drafts layout := by
  cases drafts with
  | some drafts =>
    change (Layout.ofDrafts drafts).mapError Refusal.invalid = .ok layout at found
    cases described : Layout.ofDrafts drafts with
    | error findings =>
      rw [described] at found
      cases found
    | ok described =>
      rw [described] at found
      cases found
      exact described
  | none =>
    simp only [layoutFor, Mint.stored, andThen, call, inMemory, Memory.backend] at found
    cases here : s.store.layouts.find? id with
    | none =>
      rw [here] at found
      cases found
    | some stored =>
      rw [here] at found
      cases found
      exact ⟨stored, here, rfl⟩

theorem store_previewLayout (start : UInt64) (moment : Moment) (id? : Option InventoryId)
    (l : Layout) (s : State Memory) :
    ((inMemory start).previewLayout moment id? l s).2.store = s.store := by
  rcases store_render (inMemory start) moment .preview id? l s with same | ⟨id, same⟩ | ⟨commit, -⟩
  · exact same
  · exact same
  · cases commit

/-- A request that is neither for a change of layouts nor for an identifier. -/
def Request.isHarmless : Request → Bool
  | .validate _ | .preview .. | .previewFor .. | .stored _ | .sequence _ => true
  | .generate .. | .save .. | .delete _ => false

theorem store_after_harmless {r : Request} (harmless : r.isHarmless = true) (start : UInt64)
    (s : State Memory) : ((inMemory start).after s r).store = s.store := by
  have trans : ∀ l m n : Memory, m = l → n = m → n = l := fun _ _ _ one two => two.trans one
  cases r with
  | validate drafts => exact along_andThen trans (fun _ => rfl) (fun _ _ => rfl) s
  | preview moment drafts =>
    exact along_andThen trans (fun _ => rfl) (fun l => store_previewLayout start moment none l) s
  | previewFor moment id drafts =>
    refine along_andThen trans (fun t => ?_) (fun l => store_previewLayout start moment _ l) s
    rw [layoutFor_snd]
  | stored id => exact congrArg State.store (stored_snd start id s)
  | sequence id =>
    refine along_andThen trans (along_call fun _ => rfl) (fun found t => ?_) s
    cases found <;> rfl
  | generate | save | delete => cases harmless

/-- A save replaces the layout of one inventory. -/
theorem allOrNothing_save (start : UInt64) (moment : Moment) (id : InventoryId)
    (drafts : List Draft) (s : State Memory) :
    AllOrNothing s (fun n => ∃ layout, Layout.ofDrafts drafts = .ok layout ∧
        n.counters = s.store.counters ∧
        n.layouts.find? = Function.update s.store.layouts.find? id (some (moment.record id layout)))
      ((inMemory start).save moment id drafts s) := by
  have trans : ∀ l m n : Memory, m.counters = l.counters → n.counters = m.counters →
      n.counters = l.counters := fun _ _ _ one two => two.trans one
  have counters : ((inMemory start).save moment id drafts s).2.store.counters = s.store.counters :=
    along_andThen trans (fun _ => rfl)
      (fun l => along_andThen trans (along_call fun _ => rfl) fun _ _ => rfl) s
  rcases save_cases (inMemory start) moment id drafts s with
    ⟨refusal, rules, refused⟩ | ⟨layout, described, fit⟩
  · rw [refused]
    exact .nothing rfl
  · have keeps : KeepsShelf (inMemory start).backend (fun _ => True)
        fun m shelf => m.layouts.find? = shelf := Memory.keepsShelf
    obtain ⟨rules, store, saved, layouts⟩ :=
      save_of_committable keeps trivial rfl moment described fit
    rw [saved] at counters ⊢
    exact .all ⟨layout, described, counters, layouts⟩

/-- A removal is about a layout that is there. -/
theorem allOrNothing_delete (start : UInt64) (id : InventoryId) (s : State Memory) :
    AllOrNothing s (fun n => s.store.layouts.find? id ≠ none ∧ n.counters = s.store.counters ∧
        n.layouts.find? = Function.update s.store.layouts.find? id none)
      ((inMemory start).delete id s) := by
  simp only [delete, andThen, call, inMemory, Memory.backend, Except.mapError, Table.contains]
  cases found : s.store.layouts.find? id with
  | none =>
    refine .nothing ?_
    rw [Table.erase_of_not_found found]
  | some stored =>
    refine .all ⟨Option.some_ne_none _, rfl, ?_⟩
    funext other
    rw [Function.update_apply]
    exact Table.find?_erase ..

/-- A committed render takes a value if the layout shows the counter. The start value is one that
can be given out, so a counter from which nothing could be taken was there before. -/
theorem allOrNothing_renderCommitted (room : start ≠ Counter.maxValue) (moment : Moment)
    (id : InventoryId) (l : Layout) :
    AllOrNothing s (fun n =>
        ((∃ e ∈ l.elements, e.kind = .sequence) → Memory.Taken id start s.store n) ∧
        ((∀ e ∈ l.elements, e.kind ≠ .sequence) → n = s.store))
      ((inMemory start).renderCommitted moment id l s) := by
  rw [renderCommitted, render]
  by_cases fit : l.Committable
  · obtain ⟨compiled, rules, all, composed⟩ :=
      compose_of_committable fit (inMemory start) moment (some id) s
    rw [composed]
    cases place : l.sequenceIndex? with
    | none =>
      have absent := l.sequenceIndex?_eq_none_iff.mp place
      simp only [fill, place]
      refine allOrNothing_of_store_eq rfl ⟨fun shown => ?_, fun _ => rfl⟩
      obtain ⟨e, member, kind⟩ := shown
      exact absurd kind (absent e member)
    | some index =>
      obtain ⟨e, here, kind⟩ := (Layout.firstSequence_of_sequenceIndex? place).here
      have member : e ∈ l.elements := List.mem_of_getElem? here
      rcases answer : (inMemory start).backend.allocate id (inMemory start).start
        moment.wall.millis s.store with ⟨error | value, store⟩
      · rw [fill_of_error (s := { s with rules }) compiled place answer]
        refine .nothing ?_
        change Memory.allocate id start moment.wall.millis s.store = _ at answer
        have failed := congrArg Prod.fst answer
        obtain ⟨counter, found⟩ := Memory.found_of_error failed room
        have same := Memory.allocate_eq_of_found failed found
        rw [answer] at same
        exact same
      · obtain ⟨pieces, -, filled⟩ := fill_of_allocate (s := { s with rules }) all place answer
        rw [filled]
        change Memory.allocate id start moment.wall.millis s.store = _ at answer
        have taken := Memory.taken_of_allocate (congrArg Prod.fst answer)
        rw [answer] at taken
        exact .all ⟨fun _ => taken, fun absent => absurd kind (absent e member)⟩
  · obtain ⟨finding, findings, rules, -, composed⟩ :=
      compose_of_not_committable fit (inMemory start) moment (some id) s
    rw [composed]
    exact .nothing rfl

/-- So does the making of an identifier, for the layout that is used. -/
theorem allOrNothing_generate (room : start ≠ Counter.maxValue) (moment : Moment)
    (id : InventoryId) (drafts : Option (List Draft)) :
    AllOrNothing s (fun n => ∃ layout, Uses s.store id drafts layout ∧
        ((∃ e ∈ layout.elements, e.kind = .sequence) → Memory.Taken id start s.store n) ∧
        ((∀ e ∈ layout.elements, e.kind ≠ .sequence) → n = s.store))
      ((inMemory start).generate moment id drafts s) := by
  have still := layoutFor_snd start id drafts s
  apply allOrNothing_andThen (congrArg State.store still)
  intro l t found
  have uses : Uses s.store id drafts l := uses_of_layoutFor (congrArg Prod.fst found)
  rw [found] at still
  cases still
  have rendered := (allOrNothing_renderCommitted (s := t) room moment id l).mapError
    Refusal.renderFailed
  exact rendered.imp fun n effects => ⟨l, uses, effects⟩

end

end Mint
end Mintmark
