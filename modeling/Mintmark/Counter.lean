import Mintmark.Inventory

/-!
# Counters

Every inventory has a counter of its own. It is made when the first value is taken from it and
counts up by one from then on. A counter that was read from somewhere may hold any numbers, also a
version that cannot be counted up although there are values left.
-/

namespace Mintmark

structure Counter where
  inventory : InventoryId
  /-- the value to be given out next -/
  next : UInt64
  /-- how many values have been given out -/
  version : UInt64
  /-- milliseconds since the start of 1970 -/
  createdAt : Int
  updatedAt : Int
deriving DecidableEq, Repr

/-- What comes of taking a value from a counter. -/
inductive Advance where
  | taken (value : UInt64) (next : Counter)
  /-- no value is left, and the counter stays as it is -/
  | full
  /-- the version has no room: the taking breaks off when the next value has moved on already, and
  nothing is given out -/
  | halted (midway : Counter)
deriving DecidableEq, Repr

namespace Counter

def maxValue : UInt64 := 18446744073709551615

/-- A counter from which nothing has been taken yet. -/
def fresh (inventory : InventoryId) (start : UInt64) (now : Int) : Counter :=
  { inventory, next := start, version := 0, createdAt := now, updatedAt := now }

/-- Takes the next value. The greatest value is never given out, for nothing could follow it. -/
def advance (c : Counter) (now : Int) : Advance :=
  if c.next = maxValue then .full
  else if c.version = maxValue then .halted { c with next := c.next + 1 }
  else .taken c.next { c with next := c.next + 1, version := c.version + 1, updatedAt := now }

/-- The value that is taken and the counter after it, if a value is taken. -/
def advance? (c : Counter) (now : Int) : Option (UInt64 × Counter) :=
  match c.advance now with
  | .taken value next => some (value, next)
  | .full | .halted _ => none

/-- No more values have been given out than the counter has come to. -/
def Counted (c : Counter) : Prop := c.version.toNat ≤ c.next.toNat

instance (c : Counter) : Decidable c.Counted := inferInstanceAs (Decidable (_ ≤ _))

section

variable {c d : Counter} {now : Int} {value : UInt64}

theorem advance_eq_full_iff : c.advance now = .full ↔ c.next = maxValue := by
  unfold advance
  split
  · simp [*]
  · split <;> simp [*]

theorem advance?_eq_some_iff :
    c.advance? now = some (value, d) ↔ c.advance now = .taken value d := by
  unfold advance?
  split <;> simp [*]

theorem advance?_of_taken (taken : c.advance now = .taken value d) :
    c.advance? now = some (value, d) :=
  advance?_eq_some_iff.mpr taken

theorem advance?_of_full (full : c.next = maxValue) : c.advance? now = none := by
  rw [advance?, advance_eq_full_iff.mpr full]

theorem toNat_add_one_of_ne {n : UInt64} (room : n ≠ maxValue) :
    (n + 1).toNat = n.toNat + 1 := by
  have small : n.toNat ≠ 18446744073709551615 := fun eq => room (UInt64.toNat_inj.mp eq)
  have := n.toNat_lt
  rw [UInt64.toNat_add]
  simp only [UInt64.reduceToNat]
  omega

/-- All that a taking does. -/
theorem eq_of_advance? (h : c.advance? now = some (value, d)) :
    c.next ≠ maxValue ∧ c.version ≠ maxValue ∧ value = c.next ∧
      d = { c with next := c.next + 1, version := c.version + 1, updatedAt := now } := by
  rw [advance?_eq_some_iff, advance] at h
  split at h
  · cases h
  · split at h
    · cases h
    · cases h
      exact ⟨‹_›, ‹_›, rfl, rfl⟩

theorem toNat_next_of_advance? (h : c.advance? now = some (value, d)) :
    value = c.next ∧ d.next.toNat = c.next.toNat + 1 := by
  obtain ⟨room, -, rfl, rfl⟩ := eq_of_advance? h
  exact ⟨rfl, toNat_add_one_of_ne room⟩

theorem toNat_version_of_advance? (h : c.advance? now = some (value, d)) :
    d.version.toNat = c.version.toNat + 1 := by
  obtain ⟨-, room, -, rfl⟩ := eq_of_advance? h
  exact toNat_add_one_of_ne room

theorem inventory_of_advance? (h : c.advance? now = some (value, d)) :
    d.inventory = c.inventory := by
  obtain ⟨-, -, -, rfl⟩ := eq_of_advance? h
  rfl

theorem counted_fresh (inventory : InventoryId) (start : UInt64) (now : Int) :
    (fresh inventory start now).Counted :=
  Nat.zero_le _

theorem Counted.of_advance? (counted : c.Counted) (h : c.advance? now = some (value, d)) :
    d.Counted := by
  unfold Counted at counted ⊢
  rw [toNat_version_of_advance? h, (toNat_next_of_advance? h).2]
  omega

/-- Such a counter is full before its version is at its end. -/
theorem Counted.advance_ne_halted (counted : c.Counted) : c.advance now ≠ .halted d := by
  unfold advance
  split
  · nofun
  · next room =>
    rw [if_neg]
    · nofun
    · intro last
      unfold Counted at counted
      rw [last] at counted
      have bounded := c.next.toNat_lt
      exact room (UInt64.toNat_inj.mp (Nat.le_antisymm (Nat.le_of_lt_succ bounded) counted))

theorem Counted.advance?_of_room (counted : c.Counted) (room : c.next ≠ maxValue) :
    c.advance? now =
      some (c.next, { c with next := c.next + 1, version := c.version + 1, updatedAt := now }) := by
  cases taken : c.advance now with
  | taken value d =>
    have some := advance?_of_taken taken
    obtain ⟨-, -, rfl, rfl⟩ := eq_of_advance? some
    exact some
  | full => exact absurd (advance_eq_full_iff.mp taken) room
  | halted d => exact absurd taken counted.advance_ne_halted

theorem Counted.advance?_eq_none_iff (counted : c.Counted) :
    c.advance? now = none ↔ c.next = maxValue := by
  constructor
  · intro none
    refine Decidable.byContradiction fun room => ?_
    rw [counted.advance?_of_room room] at none
    cases none
  · exact advance?_of_full

end

end Counter
end Mintmark
