import Mintmark.Store.Memory

/-!
# Shared counters

The clients of a store in memory do not share a counter by the name of its inventory. A table leads
to a handle, the handle to a cell, and a client that has found a handle goes on with it whatever
becomes of the table. Forgetting the handles gives the store in memory as one client alone sees it.

That no cell is ever reached from two inventories is kept in the type; that no inventory ever loses
its cell is what `handle_enter` and `find?_enter` say.
-/

namespace Mintmark

namespace Store

/-- How many values a store in memory says have been taken of an inventory. -/
def Memory.version (m : Memory) (id : InventoryId) : Nat :=
  (m.counters.find? id).elim 0 (·.version.toNat)

structure Cells where
  handles : Table InventoryId Nat := .empty
  cells : List Counter := []
  owned : ∀ id handle, handles.find? id = some handle →
    ∃ counter, cells[handle]? = some counter ∧ counter.inventory = id := by simp
  counted : ∀ counter ∈ cells, counter.Counted := by simp

namespace Cells

def empty : Cells := {}

def counter? (c : Cells) (id : InventoryId) : Option Counter :=
  (c.handles.find? id).bind (c.cells[·]?)

/-- The handle of an inventory, with a fresh cell behind it if there was none. -/
def enter (id : InventoryId) (start : UInt64) (now : Int) (c : Cells) : Nat × Cells :=
  match c.handles.find? id with
  | some handle => (handle, c)
  | none =>
    (c.cells.length,
      { handles := c.handles.insert id c.cells.length
        cells := c.cells ++ [.fresh id start now]
        owned := by
          intro other handle found
          rw [Table.find?_insert] at found
          split at found
          · next same =>
            cases found
            exact ⟨.fresh id start now, by simp, same.symm⟩
          · obtain ⟨counter, here, same⟩ := c.owned other handle found
            obtain ⟨bound, _⟩ := List.getElem?_eq_some_iff.mp here
            exact ⟨counter, by rw [List.getElem?_append_left bound, here], same⟩
        counted := by
          intro counter member
          rcases List.mem_append.mp member with old | new
          · exact c.counted counter old
          · rw [List.mem_singleton.mp new]
            exact Counter.counted_fresh id start now })

/-- Advances the counter in a cell. Nobody else is at the cell meanwhile. -/
def advance (handle : Nat) (now : Int) (c : Cells) : Option UInt64 × Cells :=
  match here : c.cells[handle]? with
  | none => (none, c)
  | some counter =>
    have counted : counter.Counted := c.counted counter (List.mem_of_getElem? here)
    match step : counter.advance now with
    | .full => (none, c)
    | .halted _ => absurd step counted.advance_ne_halted
    | .taken value next =>
      have forward : counter.advance? now = some (value, next) := Counter.advance?_of_taken step
      (some value,
        { c with
          cells := c.cells.set handle next
          owned := by
            intro id other found
            obtain ⟨old, there, same⟩ := c.owned id other found
            obtain ⟨bound, _⟩ := List.getElem?_eq_some_iff.mp there
            by_cases eq : handle = other
            · subst eq
              refine ⟨next, by simp [bound], ?_⟩
              rw [Counter.inventory_of_advance? forward]
              rw [here] at there
              cases there; exact same
            · exact ⟨old, by rw [List.getElem?_set_ne eq, there], same⟩
          counted := by
            intro d member
            rcases List.mem_or_eq_of_mem_set member with old | rfl
            · exact c.counted d old
            · exact counted.of_advance? forward })

/-- The counters that handles lead to. -/
def countersOf (cells : List Counter) (handles : Table InventoryId Nat) :
    Table InventoryId Counter :=
  ⟨handles.entries.filterMap fun (id, handle) => (cells[handle]?).map (id, ·)⟩

theorem mem_of_find?_countersOf {cells : List Counter} {handles : Table InventoryId Nat}
    {id : InventoryId} {counter : Counter}
    (found : (countersOf cells handles).find? id = some counter) : counter ∈ cells := by
  obtain ⟨_, _, eq, _⟩ := List.lookup_eq_some_iff.mp found
  have member : (id, counter) ∈ (countersOf cells handles).entries := by
    rw [eq]
    exact List.mem_append_right _ List.mem_cons_self
  obtain ⟨⟨_, handle⟩, -, made⟩ := List.mem_filterMap.mp member
  obtain ⟨_, here, same⟩ := Option.map_eq_some_iff.mp made
  cases same
  exact List.mem_of_getElem? here

/-- The store in memory that one client alone would see. -/
def memory (c : Cells) : Memory where
  counters := countersOf c.cells c.handles
  counted _ counter found := c.counted counter (mem_of_find?_countersOf found)

/-- The value an allocation with this start value would take next. -/
def next (c : Cells) (id : InventoryId) (start : UInt64) : Nat :=
  ((c.counter? id).elim start (·.next)).toNat

def version (c : Cells) (id : InventoryId) : Nat := (c.counter? id).elim 0 (·.version.toNat)

variable {c d : Cells} {id other : InventoryId} {start value : UInt64} {now : Int} {handle : Nat}

theorem counter?_of_handle (found : c.handles.find? id = some handle) :
    c.counter? id = c.cells[handle]? := by
  simp [counter?, found]

theorem find?_eq_none_iff : c.handles.find? id = none ↔ c.counter? id = none := by
  constructor
  · intro none; simp [counter?, none]
  · intro none
    cases found : c.handles.find? id with
    | none => rfl
    | some handle =>
      obtain ⟨counter, here, _⟩ := c.owned id handle found
      rw [counter?_of_handle found, here] at none
      cases none

theorem find?_memory (c : Cells) (id : InventoryId) :
    c.memory.counters.find? id = c.counter? id := by
  obtain ⟨⟨entries⟩, cells, owned, counted⟩ := c
  simp only [memory, countersOf, counter?, Table.find?] at owned ⊢
  -- only the first entry of an inventory counts, so the others need not lead anywhere
  have first : ∀ handle, entries.lookup id = some handle → ∃ counter, cells[handle]? = some counter :=
    fun handle found => (owned id handle found).imp fun _ h => h.1
  clear owned counted
  induction entries with
  | nil => simp
  | cons e es ih =>
    obtain ⟨key, handle⟩ := e
    rw [Table.lookup_cons_eq]
    by_cases same : id = key
    · obtain ⟨counter, here⟩ := first handle (by simp [same])
      rw [List.filterMap_cons_some (b := (key, counter)) (by simp [here]), Table.lookup_cons_eq]
      simp [same, here]
    · have rest := ih fun handle found => first handle (by rwa [Table.lookup_cons_eq, if_neg same])
      rw [if_neg same, ← rest]
      cases here : cells[handle]? with
      | none => rw [List.filterMap_cons_none (by simp [here])]
      | some counter =>
        rw [List.filterMap_cons_some (b := (key, counter)) (by simp [here]), Table.lookup_cons_eq,
          if_neg same]

theorem toNat_peek_memory (c : Cells) (id : InventoryId) (start : UInt64) :
    (c.memory.peek id start).toNat = c.next id start := by
  rw [Memory.peek, find?_memory, next]
  cases c.counter? id <;> rfl

theorem handle_enter (c : Cells) (id : InventoryId) (start : UInt64) (now : Int) :
    (c.enter id start now).2.handles.find? id = some (c.enter id start now).1 := by
  unfold enter
  split
  · next found => exact found
  · simp

theorem find?_enter (found : c.handles.find? other = some handle) :
    (c.enter id start now).2.handles.find? other = some handle := by
  unfold enter
  split
  · exact found
  · next missing =>
    have : other ≠ id := by rintro rfl; rw [missing] at found; cases found
    simp [this, found]

theorem counter?_enter (c : Cells) (id other : InventoryId) (start : UInt64) (now : Int) :
    (c.enter id start now).2.counter? other =
      if other = id ∧ c.counter? id = none then some (.fresh id start now) else c.counter? other := by
  unfold enter
  split
  · next handle found =>
    have : c.counter? id ≠ none := fun none => by
      rw [find?_eq_none_iff.mpr none] at found; cases found
    simp [this]
  · next missing =>
    have none := find?_eq_none_iff.mp missing
    by_cases same : other = id
    · simp only [same, none, and_self, if_true]
      simp [counter?]
    · simp only [counter?, Table.find?_insert, same, if_false, false_and]
      cases found : c.handles.find? other with
      | none => rfl
      | some handle =>
        obtain ⟨counter, here, _⟩ := c.owned other handle found
        obtain ⟨bound, _⟩ := List.getElem?_eq_some_iff.mp here
        simp [List.getElem?_append_left bound]

/-- What an advance of a cell does to the counters, seen by their inventories. -/
theorem counter?_advance (found : c.handles.find? id = some handle)
    (forward : c.advance handle now = (some value, d)) :
    d.handles = c.handles ∧
      ∃ old new, c.counter? id = some old ∧ old.advance? now = some (value, new) ∧
        ∀ other, d.counter? other = if other = id then some new else c.counter? other := by
  unfold advance at forward
  split at forward
  · cases forward
  · next old here =>
    dsimp only at forward
    split at forward
    · cases forward
    · next halted => exact absurd halted (c.counted old (List.mem_of_getElem? here)).advance_ne_halted
    · next value' new step =>
      cases forward
      refine ⟨rfl, old, new, by rw [counter?_of_handle found, here], Counter.advance?_of_taken step,
        ?_⟩
      intro other
      simp only [counter?]
      split
      · next same =>
        obtain ⟨bound, _⟩ := List.getElem?_eq_some_iff.mp here
        simp [same, found, bound]
      · next differ =>
        cases there : c.handles.find? other with
        | none => rfl
        | some handle' =>
          -- two inventories with one handle would own one counter
          have : handle ≠ handle' := by
            rintro rfl
            obtain ⟨_, at₁, same₁⟩ := c.owned id handle found
            obtain ⟨_, at₂, same₂⟩ := c.owned other handle there
            rw [at₁] at at₂
            cases at₂
            exact differ (same₂.symm.trans same₁)
          simp [List.getElem?_set_ne this]

/-- An advance that gives nothing changes nothing, and the counter has no value left. -/
theorem advance_eq_none (found : c.handles.find? id = some handle)
    (stuck : c.advance handle now = (none, d)) :
    d = c ∧ ∃ old, c.counter? id = some old ∧ old.next = Counter.maxValue := by
  obtain ⟨old, here, _⟩ := c.owned id handle found
  unfold advance at stuck
  split at stuck
  · next missing => rw [here] at missing; cases missing
  · next counter there =>
    dsimp only at stuck
    split at stuck
    · next full =>
      cases stuck
      exact ⟨rfl, counter, by rw [counter?_of_handle found, there],
        Counter.advance_eq_full_iff.mp full⟩
    · next halted =>
      exact absurd halted (c.counted counter (List.mem_of_getElem? there)).advance_ne_halted
    · cases stuck

end Cells
end Store
end Mintmark
