import Mintmark.Store.Backend
import Mintmark.Table

/-!
# The store in memory

Taking a value is three steps, which other clients may interleave: look the counter up, make it if
it is not there, and advance it. A counter stays even if it has no value to give. All counters begin
here, so no taking ever breaks off.
-/

namespace Mintmark.Store

structure Memory where
  counters : Table InventoryId Counter := .empty
  layouts : Table InventoryId StoredLayout := .empty
  counted : ∀ id, ∀ c ∈ counters.find? id, c.Counted := by simp

namespace Memory

def empty : Memory := {}

/-- The store with a counter for an inventory. -/
def put (m : Memory) (id : InventoryId) (c : Counter) (counted : c.Counted) : Memory :=
  { m with
    counters := m.counters.insert id c
    counted := by
      intro other d found
      rw [Table.find?_insert] at found
      split at found
      · cases found
        exact counted
      · exact m.counted other d found }

/-- Makes the counter of an inventory unless there is one. -/
def ensureCounter (id : InventoryId) (start : UInt64) (now : Int) (m : Memory) : Memory :=
  match m.counters.find? id with
  | some _ => m
  | none => m.put id (.fresh id start now) (Counter.counted_fresh id start now)

/-- Takes a value from a counter that exists. -/
def advance (id : InventoryId) (now : Int) : Call Memory UInt64 := fun m =>
  match found : m.counters.find? id with
  | none => (.error (.overflow id.text), m)
  | some counter =>
    have counted : counter.Counted := m.counted id counter found
    match forward : counter.advance now with
    | .taken value next =>
      (.ok value, m.put id next (counted.of_advance? (Counter.advance?_of_taken forward)))
    | .full => (.error (.overflow id.text), m)
    | .halted _ => absurd forward counted.advance_ne_halted

def allocate (id : InventoryId) (start : UInt64) (now : Int) : Call Memory UInt64 := fun m =>
  advance id now (m.ensureCounter id start now)

def peek (m : Memory) (id : InventoryId) (start : UInt64) : UInt64 :=
  ((m.counters.find? id).map (·.next)).getD start

def backend : Backend Memory where
  name := "memory"
  allocate := allocate
  peek id start m := (.ok (m.peek id start), m)
  counter id m := (.ok (m.counters.find? id), m)
  save stored m := (.ok (), { m with layouts := m.layouts.insert stored.inventory stored })
  load id m := (.ok (m.layouts.find? id), m)
  remove id m := (.ok (m.layouts.contains id), { m with layouts := m.layouts.erase id })
  checkHealth m := (.ok (), m)

end Memory

/-- A store of which every call fails in the same way. -/
def failing (error : StoreError) : Backend Unit where
  name := "failing"
  allocate _ _ _ s := (.error error, s)
  peek _ _ s := (.error error, s)
  counter _ s := (.error error, s)
  save _ s := (.error error, s)
  load _ s := (.error error, s)
  remove _ s := (.error error, s)
  checkHealth s := (.error error, s)

end Mintmark.Store
