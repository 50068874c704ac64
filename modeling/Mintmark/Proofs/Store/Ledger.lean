import Mathlib.Logic.Function.Basic
import Mintmark.Proofs.Memory.Sequential
import Mintmark.Proofs.Store.Documents
import Mintmark.Proofs.Store.Operations

/-!
# Ledgers

What a store is to remember, apart from how it keeps it: for every inventory a layout, and a counter
without its times. A store that keeps to the laws of both halves answers every sequence of operations
as the ledger does, and so all such stores answer alike.
-/

namespace Mintmark

namespace Counter

def timeless (c : Counter) : Counter := { c with createdAt := 0, updatedAt := 0 }

theorem advance?_timeless (c : Counter) (now : Int) :
    c.timeless.advance? 0 = (c.advance? now).map fun (value, d) => (value, d.timeless) := by
  by_cases full : c.next = maxValue
  · simp [advance?, advance, timeless, full]
  · by_cases last : c.version = maxValue <;> simp [advance?, advance, timeless, full, last]

end Counter

namespace Store

/-- The operation, at whatever time. -/
def Operation.timeless : Operation → Operation
  | allocate id start _ => allocate id start 0
  | op => op

def Answer.timeless : Answer → Answer
  | counter answer => counter (answer.map (·.map Counter.timeless))
  | answer => answer

abbrev Counts := InventoryId → Option Counter

abbrev Shelf := InventoryId → Option StoredLayout

namespace Counts

/-- The value that is taken next, and the counter afterwards. -/
def take? (counts : Counts) (id : InventoryId) (start : UInt64) : Option (UInt64 × Counter) :=
  ((counts id).getD (.fresh id start 0)).advance? 0

def afterTaking (counts : Counts) (id : InventoryId) (start : UInt64) : Counts :=
  match counts.take? id start with
  | some (_, counter) => Function.update counts id (some counter)
  | none => counts

def taken (counts : Counts) (id : InventoryId) (start : UInt64) : Except StoreError UInt64 :=
  match counts.take? id start with
  | some (value, _) => .ok value
  | none => .error (.overflow id.text)

theorem take?_eq {counts : Counts} {id : InventoryId} {found : Option Counter}
    (shown : found.map Counter.timeless = counts id) (start : UInt64) (now : Int) :
    counts.take? id start = ((found.getD (.fresh id start now)).advance? now).map
      fun (value, counter) => (value, counter.timeless) := by
  rw [take?, ← shown, ← Counter.advance?_timeless]
  cases found <;> rfl

end Counts

structure Ledger where
  counts : Counts := fun _ => none
  shelf : Shelf := fun _ => none

namespace Ledger

def empty : Ledger := {}

def backend : Backend Ledger where
  name := "ledger"
  allocate id start _ l :=
    (l.counts.taken id start, { l with counts := l.counts.afterTaking id start })
  peek id start l := (.ok (((l.counts id).map (·.next)).getD start), l)
  counter id l := (.ok (l.counts id), l)
  save stored l :=
    (.ok (), { l with shelf := Function.update l.shelf stored.inventory (some stored) })
  load id l := (.ok (l.shelf id), l)
  remove id l := (.ok (l.shelf id).isSome, { l with shelf := Function.update l.shelf id none })
  checkHealth l := (.ok (), l)

theorem perform_timeless (op : Operation) (l : Ledger) :
    backend.perform op.timeless l = backend.perform op l := by
  cases op <;> rfl

theorem answers_timeless (ops : List Operation) (l : Ledger) :
    backend.answers (ops.map Operation.timeless) l = backend.answers ops l := by
  induction ops generalizing l with
  | nil => rfl
  | cons op ops ih =>
    rw [List.map_cons, Backend.answers, Backend.answers, perform_timeless, ih]

end Ledger

section

variable {σ : Type} {b : Backend σ} {Used : InventoryId → Prop}

/-- The laws of layouts: the last one saved is there until it is removed, and what is done with
counters does not matter. -/
structure KeepsShelf (b : Backend σ) (Used : InventoryId → Prop) (Shows : σ → Shelf → Prop) :
    Prop where
  allocate : ∀ {s shelf} id start now, Shows s shelf → Shows (b.allocate id start now s).2 shelf
  peek : ∀ {s shelf} id start, Shows s shelf → Shows (b.peek id start s).2 shelf
  counter : ∀ {s shelf} id, Shows s shelf → Shows (b.counter id s).2 shelf
  save : ∀ {s shelf stored}, Used stored.inventory → stored.layout.Fits → Shows s shelf →
    (b.save stored s).1 = .ok () ∧
      Shows (b.save stored s).2 (Function.update shelf stored.inventory (some stored))
  load : ∀ {s shelf} id, Shows s shelf →
    (Used id → (b.load id s).1 = .ok (shelf id)) ∧ Shows (b.load id s).2 shelf
  remove : ∀ {s shelf id}, Used id → Shows s shelf →
    (b.remove id s).1 = .ok (shelf id).isSome ∧
      Shows (b.remove id s).2 (Function.update shelf id none)

/-- The laws of counters, which hold as long as values are taken only where it is allowed. -/
structure KeepsCounts (b : Backend σ) (Used : InventoryId → Prop)
    (Allowed : Counts → InventoryId → UInt64 → Int → Prop) (Shows : σ → Counts → Prop) : Prop where
  save : ∀ {s counts} stored, Shows s counts → Shows (b.save stored s).2 counts
  load : ∀ {s counts} id, Shows s counts → Shows (b.load id s).2 counts
  remove : ∀ {s counts} id, Shows s counts → Shows (b.remove id s).2 counts
  allocate : ∀ {s counts id start now}, Used id → Allowed counts id start now → Shows s counts →
    (b.allocate id start now s).1 = counts.taken id start ∧
      Shows (b.allocate id start now s).2 (counts.afterTaking id start)
  peek : ∀ {s counts id} start, Used id → Shows s counts →
    (b.peek id start s).1 = .ok (((counts id).map (·.next)).getD start) ∧
      Shows (b.peek id start s).2 counts
  counter : ∀ {s counts id}, Used id → Shows s counts →
    (b.counter id s).1.map (·.map Counter.timeless) = .ok (counts id) ∧
      Shows (b.counter id s).2 counts

/-- The operation is about an inventory in use, and what it asks for is within bounds. -/
structure Operation.Fit (Used : InventoryId → Prop)
    (Allowed : Counts → InventoryId → UInt64 → Int → Prop) (counts : Counts) (op : Operation) :
    Prop where
  used : Used op.id
  fits : ∀ stored, op = .save stored → stored.layout.Fits
  allowed : ∀ id start now, op = .allocate id start now → Allowed counts id start now

variable {Allowed : Counts → InventoryId → UInt64 → Int → Prop} {Shown : σ → Counts → Prop}
  {Shows : σ → Shelf → Prop} {s : σ} {l : Ledger}

/-- A store and a ledger that agree answer an operation alike and agree again. -/
theorem perform_ledger (counters : KeepsCounts b Used Allowed Shown)
    (layouts : KeepsShelf b Used Shows) {op : Operation} (fit : op.Fit Used Allowed l.counts) (shown : Shown s l.counts)
    (shows : Shows s l.shelf) :
    (b.perform op s).1.timeless = (Ledger.backend.perform op l).1 ∧
      Shown (b.perform op s).2 (Ledger.backend.perform op l).2.counts ∧
      Shows (b.perform op s).2 (Ledger.backend.perform op l).2.shelf := by
  have used := fit.used
  cases op with
  | allocate id start now =>
    obtain ⟨answer, counts⟩ := counters.allocate used (fit.allowed id start now rfl) shown
    exact ⟨congrArg Answer.value answer, counts, layouts.allocate id start now shows⟩
  | peek id start =>
    obtain ⟨answer, counts⟩ := counters.peek start used shown
    exact ⟨congrArg Answer.value answer, counts, layouts.peek id start shows⟩
  | counter id =>
    obtain ⟨answer, counts⟩ := counters.counter used shown
    exact ⟨congrArg Answer.counter answer, counts, layouts.counter id shows⟩
  | save stored =>
    obtain ⟨answer, shelf⟩ := layouts.save used (fit.fits stored rfl) shows
    exact ⟨congrArg Answer.saved answer, counters.save stored shown, shelf⟩
  | load id =>
    obtain ⟨answer, shelf⟩ := layouts.load id shows
    exact ⟨congrArg Answer.layout (answer used), counters.load id shown, shelf⟩
  | remove id =>
    obtain ⟨answer, shelf⟩ := layouts.remove used shows
    exact ⟨congrArg Answer.removed answer, counters.remove id shown, shelf⟩

/-- So they do over a whole run in which every operation fits when its turn comes. -/
theorem answers_ledger (counters : KeepsCounts b Used Allowed Shown)
    (layouts : KeepsShelf b Used Shows) {ops : List Operation}
    (fit : ∀ front op back, ops = front ++ op :: back →
      op.Fit Used Allowed (Ledger.backend.after front l).counts)
    (shown : Shown s l.counts) (shows : Shows s l.shelf) :
    (b.answers ops s).map Answer.timeless = Ledger.backend.answers ops l ∧
      Shown (b.after ops s) (Ledger.backend.after ops l).counts ∧
      Shows (b.after ops s) (Ledger.backend.after ops l).shelf := by
  induction ops generalizing s l with
  | nil => exact ⟨rfl, shown, shows⟩
  | cons op ops ih =>
    have first : op.Fit Used Allowed l.counts := fit [] op ops rfl
    obtain ⟨answer, shown, shows⟩ := perform_ledger counters layouts first shown shows
    have rest :=
      ih (fun front next back eq => fit (op :: front) next back (by rw [eq]; rfl)) shown shows
    refine ⟨?_, rest.2⟩
    rw [Backend.answers, Backend.answers, List.map_cons, answer]
    exact congrArg _ rest.1

end

namespace Memory

theorem layouts_allocate (m : Memory) (id : InventoryId) (start : UInt64) (now : Int) :
    (allocate id start now m).2.layouts = m.layouts := by
  have found := m.find?_ensureCounter id start now
  have made : (m.ensureCounter id start now).layouts = m.layouts := by
    unfold ensureCounter
    split <;> rfl
  cases advanced : (m.met id start now).advance? now with
  | none =>
    rw [allocate, advance_of_full found advanced]
    exact made
  | some pair =>
    rw [allocate, advance_of_taken found advanced]
    exact made

theorem keepsShelf : KeepsShelf backend (fun _ => True) fun m shelf => m.layouts.find? = shelf where
  allocate id start now shows := by
    change (allocate id start now _).2.layouts.find? = _
    rw [layouts_allocate, shows]
  peek _ _ shows := shows
  counter _ shows := shows
  save _ _ shows := by
    refine ⟨rfl, ?_⟩
    funext other
    rw [Function.update_apply, ← shows]
    exact Table.find?_insert ..
  load id shows := ⟨fun _ => congrArg Except.ok (congrFun shows id), shows⟩
  remove _ shows := by
    refine ⟨?_, ?_⟩
    · rw [← shows]
      rfl
    · funext other
      rw [Function.update_apply, ← shows]
      exact Table.find?_erase ..

/-- The counters without their times. -/
def counts (m : Memory) : Counts := fun id => (m.counters.find? id).map Counter.timeless

theorem allocate_of_advance {m : Memory} {id : InventoryId} {start value : UInt64} {now : Int}
    {counter : Counter}
    (advanced : ((m.counters.find? id).getD (.fresh id start now)).advance? now =
      some (value, counter)) :
    (allocate id start now m).1 = .ok value ∧
      (allocate id start now m).2.counts =
        Function.update m.counts id (some counter.timeless) := by
  change (m.met id start now).advance? now = some (value, counter) at advanced
  constructor
  · rw [allocate_fst, advanced]
    rfl
  · funext other
    rw [counts, find?_allocate, advanced, Function.update_apply]
    split <;> rfl

theorem allocate_of_full {m : Memory} {id : InventoryId} {start : UInt64} {now : Int}
    {counter : Counter} (here : m.counters.find? id = some counter)
    (full : counter.advance? now = none) :
    allocate id start now m = (.error (.overflow id.text), m) := by
  have made : m.ensureCounter id start now = m := by
    rw [ensureCounter, here]
  rw [allocate, made, advance_of_full here full]

/-- A counter that were made full would stay although it gives nothing. -/
theorem keepsCounts : KeepsCounts backend (fun _ => True)
    (fun _ _ start _ => start < Counter.maxValue) fun m counts => m.counts = counts where
  save _ shown := shown
  load _ shown := shown
  remove _ shown := shown
  allocate := by
    rintro m _ id start now - room rfl
    have found : (m.counters.find? id).map Counter.timeless = m.counts id := rfl
    have taking := Counts.take?_eq found start now
    rw [Counts.taken, Counts.afterTaking, taking]
    cases advanced : ((m.counters.find? id).getD (.fresh id start now)).advance? now with
    | some pair => exact allocate_of_advance advanced
    | none =>
      have last := (m.counted_met id start now).advance?_eq_none_iff.mp advanced
      rw [Memory.met] at last
      cases here : m.counters.find? id with
      | none =>
        rw [here] at last
        change start = _ at last
        rw [last] at room
        exact absurd room (UInt64.lt_irrefl _)
      | some counter =>
        rw [here] at last
        have full : counter.advance? now = none := Counter.advance?_of_full last
        rw [show backend.allocate id start now m = _ from allocate_of_full here full]
        exact ⟨rfl, rfl⟩
  peek := by
    rintro m _ id start - rfl
    refine ⟨?_, rfl⟩
    change Except.ok (m.peek id start) = _
    rw [peek, counts, Option.map_map]
    rfl
  counter := by
    rintro m _ id - rfl
    exact ⟨rfl, rfl⟩

end Memory
end Store
end Mintmark
