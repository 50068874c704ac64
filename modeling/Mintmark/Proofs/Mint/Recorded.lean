import Mintmark.Mint.Render

/-!
# Recorded stores

A store that keeps a list of the calls made to it, each with its answer, and passes them on to
another store. A mint over a recorded store answers as over the store itself, so the list tells what
a render asks of any store, whatever that answers.
-/

namespace Mintmark

namespace Store

/-- A call that was made to a store, with the answer to it. -/
inductive Asked where
  | allocate (id : InventoryId) (start : UInt64) (now : Int) (answer : Except StoreError UInt64)
  | peek (id : InventoryId) (start : UInt64) (answer : Except StoreError UInt64)
  | counter (id : InventoryId) (answer : Except StoreError (Option Counter))
  | save (stored : StoredLayout) (answer : Except StoreError Unit)
  | load (id : InventoryId) (answer : Except StoreError (Option StoredLayout))
  | remove (id : InventoryId) (answer : Except StoreError Bool)
  | checkHealth (answer : Except StoreError Unit)

def Asked.allocates : Asked → Bool
  | allocate .. => true
  | _ => false

/-- Makes a call and notes it behind those made before. -/
def Call.noted {σ α : Type} (c : Call σ α) (note : Except StoreError α → Asked) :
    Call (σ × List Asked) α := fun s =>
  ((c s.1).1, (c s.1).2, s.2 ++ [note (c s.1).1])

def Backend.recorded {σ : Type} (b : Backend σ) : Backend (σ × List Asked) where
  name := b.name
  allocate id start now := (b.allocate id start now).noted (.allocate id start now)
  peek id start := (b.peek id start).noted (.peek id start)
  counter id := (b.counter id).noted (.counter id)
  save stored := (b.save stored).noted (.save stored)
  load id := (b.load id).noted (.load id)
  remove id := (b.remove id).noted (.remove id)
  checkHealth := b.checkHealth.noted .checkHealth

end Store

namespace Mint

open Format Store

variable {σ : Type}

def recorded (m : Mint σ) : Mint (σ × List Asked) where
  backend := m.backend.recorded
  start := m.start

/-- The state without the record. -/
def State.plain (s : State (σ × List Asked)) : State σ :=
  { store := s.store.1, rules := s.rules, tally := s.tally }

/-- What comes of a step on a recorded store, without the record. -/
def plainly {α : Type} (done : α × State (σ × List Asked)) : α × State σ := (done.1, done.2.plain)

theorem sequenceValue_recorded (m : Mint σ) (moment : Moment) (mode : Mode)
    (id? : Option InventoryId) (index : Nat) (s : State (σ × List Asked)) :
    plainly (m.recorded.sequenceValue moment mode id? index s) =
      m.sequenceValue moment mode id? index s.plain := by
  cases id? with
  | none => rfl
  | some id =>
    cases mode with
    | preview => rfl
    | commit =>
      simp only [plainly, sequenceValue, recorded, Backend.recorded, Call.noted, State.plain]
      rcases m.backend.allocate id m.start moment.wall.millis s.store.1 with ⟨_ | value, store⟩ <;> rfl

theorem fill_recorded (m : Mint σ) (moment : Moment) (mode : Mode) (id? : Option InventoryId)
    (l : Layout) (rules : List Rule) (s : State (σ × List Asked)) :
    plainly (m.recorded.fill moment mode id? l rules s) =
      m.fill moment mode id? l rules s.plain := by
  unfold fill
  cases l.sequenceIndex? with
  | none => rfl
  | some index =>
    have value := sequenceValue_recorded m moment mode id? index s
    dsimp only
    rw [← value]
    rcases m.recorded.sequenceValue moment mode id? index s with ⟨_ | value, t⟩ <;> rfl

theorem compose_recorded (m : Mint σ) (moment : Moment) (mode : Mode) (id? : Option InventoryId)
    (l : Layout) (s : State (σ × List Asked)) :
    plainly (m.recorded.compose moment mode id? l s) = m.compose moment mode id? l s.plain := by
  unfold compose
  have rules : s.plain.rules = s.rules := rfl
  rw [rules]
  rcases l.check mode s.rules with ⟨_ | ⟨finding, findings⟩, rest⟩
  · dsimp only
    rcases compileAll 0 l.elements rest with ⟨_ | compiled, rest⟩
    · rfl
    · exact fill_recorded ..
  · rfl

/-- Recording changes neither the answer nor what becomes of the store. -/
theorem render_recorded (m : Mint σ) (moment : Moment) (mode : Mode) (id? : Option InventoryId)
    (l : Layout) (s : State (σ × List Asked)) :
    plainly (m.recorded.render moment mode id? l s) = m.render moment mode id? l s.plain := by
  unfold render
  rw [← compose_recorded]
  rcases m.recorded.compose moment mode id? l s with ⟨answer, t⟩
  rfl

end Mint
end Mintmark
