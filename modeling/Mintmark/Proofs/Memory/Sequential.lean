import Mintmark.Store.Memory

/-!
# The store in memory, one call at a time

What taking a value does to the values that a peek sees: it moves the one counter on by one, or finds
it full and changes nothing that can be seen.
-/

namespace Mintmark.Store.Memory

theorem find?_put (m : Memory) (id other : InventoryId) (c : Counter) (counted : c.Counted) :
    (m.put id c counted).counters.find? other =
      if other = id then some c else m.counters.find? other :=
  Table.find?_insert ..

theorem find?_ensureCounter (m : Memory) (id : InventoryId) (start : UInt64) (now : Int) :
    (m.ensureCounter id start now).counters.find? id =
      some ((m.counters.find? id).getD (.fresh id start now)) := by
  unfold ensureCounter
  cases here : m.counters.find? id with
  | some counter => exact here
  | none => simp [find?_put]

theorem find?_ensureCounter_of_ne {id other : InventoryId} (away : other ≠ id) (m : Memory)
    (start : UInt64) (now : Int) :
    (m.ensureCounter id start now).counters.find? other = m.counters.find? other := by
  unfold ensureCounter
  cases m.counters.find? id with
  | some counter => rfl
  | none => simp [find?_put, away]

section

variable {m : Memory} {id : InventoryId} {start value : UInt64} {now : Int} {counter next : Counter}

theorem advance_of_taken (found : m.counters.find? id = some counter)
    (forward : counter.advance? now = some (value, next)) :
    advance id now m =
      (.ok value, m.put id next ((m.counted id counter found).of_advance? forward)) := by
  rw [Counter.advance?_eq_some_iff] at forward
  unfold advance
  split
  · next missing => simp [missing] at found
  · next here =>
    cases here.symm.trans found
    dsimp only
    split
    · next taken =>
      cases taken.symm.trans forward
      rfl
    · next full => simp [full] at forward
    · next halted => simp [halted] at forward

theorem advance_of_full (found : m.counters.find? id = some counter)
    (full : counter.advance? now = none) :
    advance id now m = (.error (.overflow id.text), m) := by
  unfold advance
  split
  · rfl
  · next here =>
    cases here.symm.trans found
    dsimp only
    split
    · next taken => simp [Counter.advance?_of_taken taken] at full
    · rfl
    · next halted => exact absurd halted (m.counted id counter found).advance_ne_halted

end

/-- The counter that a taking comes upon. -/
def met (m : Memory) (id : InventoryId) (start : UInt64) (now : Int) : Counter :=
  (m.counters.find? id).getD (.fresh id start now)

theorem counted_met (m : Memory) (id : InventoryId) (start : UInt64) (now : Int) :
    (m.met id start now).Counted := by
  unfold met
  cases found : m.counters.find? id with
  | none => exact Counter.counted_fresh id start now
  | some counter => exact m.counted id counter found

theorem next_met (m : Memory) (id : InventoryId) (start : UInt64) (now : Int) :
    (m.met id start now).next = m.peek id start := by
  unfold met peek
  cases m.counters.find? id <;> rfl

theorem allocate_fst (m : Memory) (id : InventoryId) (start : UInt64) (now : Int) :
    (allocate id start now m).1 =
      ((m.met id start now).advance? now).elim (.error (.overflow id.text)) (.ok ·.1) := by
  have made := m.find?_ensureCounter id start now
  cases advanced : (m.met id start now).advance? now with
  | none => exact congrArg Prod.fst (advance_of_full made advanced)
  | some pair => exact congrArg Prod.fst (advance_of_taken made advanced)

/-- A taking leaves the counter that it came upon advanced, if it can be, and all others alone. -/
theorem find?_allocate (m : Memory) (id other : InventoryId) (start : UInt64) (now : Int) :
    (allocate id start now m).2.counters.find? other =
      if other = id then
        some (((m.met id start now).advance? now).elim (m.met id start now) (·.2))
      else m.counters.find? other := by
  have made := m.find?_ensureCounter id start now
  have away (differ : other ≠ id) := find?_ensureCounter_of_ne differ m start now
  cases advanced : (m.met id start now).advance? now with
  | none =>
    rw [allocate, advance_of_full made advanced]
    split
    · next same => rw [same, made]; rfl
    · next differ => exact away differ
  | some pair =>
    rw [allocate, advance_of_taken made advanced, find?_put]
    split
    · rfl
    · next differ => exact away differ

theorem allocate_cases (m : Memory) (id : InventoryId) (start : UInt64) (now : Int) :
    (∃ after, allocate id start now m = (.ok (m.peek id start), after) ∧
      (after.peek id start).toNat = (m.peek id start).toNat + 1 ∧
      ∀ other ≠ id, after.peek other start = m.peek other start) ∨
    (∃ after, allocate id start now m = (.error (.overflow id.text), after) ∧
      ∀ other, after.peek other start = m.peek other start) := by
  have answer := m.allocate_fst id start now
  have found (other : InventoryId) := m.find?_allocate id other start now
  have next := m.next_met id start now
  cases advanced : (m.met id start now).advance? now with
  | none =>
    rw [advanced] at answer
    refine .inr ⟨_, Prod.ext answer rfl, fun other => ?_⟩
    rw [peek, found, advanced]
    by_cases same : other = id
    · rw [if_pos same, same, ← next]
      rfl
    · rw [if_neg same, peek]
  | some pair =>
    obtain ⟨value, moved⟩ := pair
    obtain ⟨rfl, forward⟩ := Counter.toNat_next_of_advance? advanced
    rw [advanced] at answer
    refine .inl ⟨_, Prod.ext (by rw [answer, ← next]; rfl) rfl, ?_, fun other away => ?_⟩
    · rw [peek, found, if_pos rfl, advanced, ← next, ← forward]
      rfl
    · rw [peek, found, if_neg away, peek]

/-- Nothing that is asked of the store takes a counter back. -/
theorem peek_le_allocate (m : Memory) (id other : InventoryId) (start : UInt64) (now : Int) :
    (m.peek other start).toNat ≤ ((allocate id start now m).2.peek other start).toNat := by
  rcases m.allocate_cases id start now with ⟨after, eq, next, away⟩ | ⟨after, eq, same⟩
  · rw [eq]
    by_cases here : other = id
    · rw [here, next]
      exact Nat.le_succ _
    · exact Nat.le_of_eq (by rw [away other here])
  · exact Nat.le_of_eq (by rw [eq, same other])

end Mintmark.Store.Memory
