import Mintmark.Proofs.Store.Documents

/-!
# How far counters count

A counter gives out its values one by one, in whole numbers, up to the one before the greatest, and
from then on it stays as it is. Only the next value is guarded in this way. The version is counted
up along with it and has to have room of its own: a counter that was read from a document may be at
its last version and still have values to give. Then the taking of a value breaks off, and what is
left behind is a counter that has moved on to its next value without having given the one before.
-/

namespace Mintmark.Counter

/-- What comes of taking values one after another from a counter in its place. -/
structure Run where
  /-- one answer for each taking that came to its end -/
  answers : List (Option UInt64)
  /-- the counter as it is left behind -/
  counter : Counter
  hasHalted : Bool

/-- Takes values one after another, each at a time of its own, until a taking breaks off. -/
def turns : List Int → Counter → Run
  | [], c => ⟨[], c, false⟩
  | now :: times, c =>
    match c.advance now with
    | .taken value d =>
      let run := turns times d
      { run with answers := some value :: run.answers }
    | .full =>
      let run := turns times c
      { run with answers := none :: run.answers }
    | .halted midway => ⟨[], midway, true⟩

/-- How many values a counter has to give. -/
def valuesLeft (c : Counter) : Nat := maxValue.toNat - c.next.toNat

/-- How far the version can be counted up. -/
def versionsLeft (c : Counter) : Nat := maxValue.toNat - c.version.toNat

theorem sub_toNat_eq_zero_iff {n : UInt64} : maxValue.toNat - n.toNat = 0 ↔ n = maxValue := by
  have bounded := n.toNat_lt
  rw [← UInt64.toNat_inj, show maxValue.toNat = 18446744073709551615 from rfl]
  omega

/-- The second counter is the first one after so many values. -/
structure Further (c d : Counter) (n : Nat) : Prop where
  next : d.next.toNat = c.next.toNat + n
  version : d.version.toNat = c.version.toNat + n
  inventory : d.inventory = c.inventory
  createdAt : d.createdAt = c.createdAt

theorem Further.refl (c : Counter) : Further c c 0 := ⟨rfl, rfl, rfl, rfl⟩

theorem Further.trans {c d e : Counter} {m n : Nat} (first : Further c d m)
    (second : Further d e n) : Further c e (m + n) where
  next := by rw [second.next, first.next, Nat.add_assoc]
  version := by rw [second.version, first.version, Nat.add_assoc]
  inventory := second.inventory.trans first.inventory
  createdAt := second.createdAt.trans first.createdAt

section

variable {c d : Counter} {now : Int} {value : UInt64}

theorem value_of_taken (taken : c.advance now = .taken value d) : value = c.next :=
  (toNat_next_of_advance? (advance?_of_taken taken)).1

theorem further_of_taken (taken : c.advance now = .taken value d) : Further c d 1 := by
  have counted := advance?_of_taken taken
  obtain ⟨-, -, -, same⟩ := eq_of_advance? counted
  exact ⟨(toNat_next_of_advance? counted).2, toNat_version_of_advance? counted,
    by rw [same], by rw [same]⟩

theorem left_of_taken (taken : c.advance now = .taken value d) :
    d.valuesLeft + 1 = c.valuesLeft ∧ d.versionsLeft + 1 = c.versionsLeft := by
  obtain ⟨room, counts, -, -⟩ := eq_of_advance? (advance?_of_taken taken)
  have some_value := mt sub_toNat_eq_zero_iff.mp room
  have some_version := mt sub_toNat_eq_zero_iff.mp counts
  have further := further_of_taken taken
  simp only [valuesLeft, versionsLeft, further.next, further.version]
  omega

theorem advance_of_room (room : c.next ≠ maxValue) (counts : c.version ≠ maxValue) :
    c.advance now = .taken c.next
      { c with next := c.next + 1, version := c.version + 1, updatedAt := now } := by
  rw [advance, if_neg room, if_neg counts]

theorem advance_of_worn (room : c.next ≠ maxValue) (last : c.version = maxValue) :
    c.advance now = .halted { c with next := c.next + 1 } := by
  rw [advance, if_neg room, if_pos last]

/-- A taking breaks off only at a counter with values and without versions. -/
theorem left_of_halted {midway : Counter} (halted : c.advance now = .halted midway) :
    c.valuesLeft ≠ 0 ∧ c.versionsLeft = 0 ∧ midway = { c with next := c.next + 1 } := by
  unfold advance at halted
  split at halted
  · cases halted
  · next room =>
    split at halted
    · next last =>
      cases halted
      exact ⟨mt sub_toNat_eq_zero_iff.mp room, sub_toNat_eq_zero_iff.mpr last, rfl⟩
    · cases halted

end

/-- With versions enough the values follow one another from the next one on, as long as there are
any. -/
theorem turns_of_enough {times : List Int} {c : Counter}
    (enough : min times.length c.valuesLeft ≤ c.versionsLeft) :
    (c.turns times).hasHalted = false ∧
      Further c (c.turns times).counter (min times.length c.valuesLeft) ∧
      (c.turns times).answers.map (·.map UInt64.toNat) =
        (List.range' c.next.toNat (min times.length c.valuesLeft)).map some ++
          List.replicate (times.length - c.valuesLeft) none := by
  induction times generalizing c with
  | nil =>
    rw [List.length_nil, Nat.zero_min, Nat.zero_sub]
    exact ⟨rfl, .refl c, rfl⟩
  | cons now times ih =>
    rw [turns]
    cases advanced : c.advance now with
    | taken value d =>
      obtain ⟨values, versions⟩ := left_of_taken advanced
      rw [List.length_cons, ← values, Nat.add_min_add_right] at enough ⊢
      obtain ⟨running, further, answers⟩ := ih (c := d) (by omega)
      have one := further_of_taken advanced
      refine ⟨running, ?_, ?_⟩
      · rw [Nat.add_comm]
        exact one.trans further
      · rw [List.range'_succ, Nat.add_sub_add_right, ← one.next, value_of_taken advanced]
        exact congrArg (some c.next.toNat :: ·) answers
    | full =>
      have nothing : c.valuesLeft = 0 :=
        sub_toNat_eq_zero_iff.mpr (advance_eq_full_iff.mp advanced)
      have rest := ih (c := c)
      rw [nothing, Nat.min_zero] at rest ⊢
      obtain ⟨running, further, answers⟩ := rest (Nat.zero_le _)
      exact ⟨running, further, congrArg (none :: ·) answers⟩
    | halted midway =>
      obtain ⟨values, versions, -⟩ := left_of_halted advanced
      rw [List.length_cons] at enough
      omega

/-- With too few versions the run breaks off at the first value that has none. -/
theorem turns_of_short {times : List Int} {c : Counter}
    (short : c.versionsLeft < min times.length c.valuesLeft) :
    (c.turns times).hasHalted = true ∧
      (∃ last, Further c last c.versionsLeft ∧
        (c.turns times).counter = { last with next := last.next + 1 }) ∧
      (c.turns times).answers.map (·.map UInt64.toNat) =
        (List.range' c.next.toNat c.versionsLeft).map some := by
  induction times generalizing c with
  | nil => simp at short
  | cons now times ih =>
    rw [turns]
    cases advanced : c.advance now with
    | taken value d =>
      obtain ⟨values, versions⟩ := left_of_taken advanced
      rw [List.length_cons] at short
      rw [← versions]
      obtain ⟨halted, ⟨last, further, counter⟩, answers⟩ := ih (c := d) (by omega)
      have one := further_of_taken advanced
      refine ⟨halted, ⟨last, ?_, counter⟩, ?_⟩
      · rw [Nat.add_comm]
        exact one.trans further
      · rw [List.range'_succ, ← one.next, value_of_taken advanced]
        exact congrArg (some c.next.toNat :: ·) answers
    | full =>
      have nothing : c.valuesLeft = 0 :=
        sub_toNat_eq_zero_iff.mpr (advance_eq_full_iff.mp advanced)
      omega
    | halted midway =>
      obtain ⟨-, versions, rfl⟩ := left_of_halted advanced
      rw [versions]
      exact ⟨rfl, ⟨c, .refl c, rfl⟩, rfl⟩

/-- On every counter, also on one that no run of the store would make: a full counter gives nothing
and stays as it is. Any other whose version has room gives its next value and counts on by exactly
one. Where the version has none the taking breaks off with the next value counted up. Over any
number of turns the values are consecutive until the counter is full or a turn breaks off, and both
numbers have grown by how many they are; but for the turn that breaks off. -/
theorem turns_count_exactly (c : Counter) :
    (∀ now, c.next = maxValue → c.advance now = .full) ∧
    (∀ now, c.next ≠ maxValue → c.version ≠ maxValue → ∃ d,
      c.advance now = .taken c.next d ∧ Further c d 1 ∧ d.updatedAt = now) ∧
    (∀ now, c.next ≠ maxValue → c.version = maxValue →
      c.advance now = .halted { c with next := c.next + 1 }) ∧
    (∀ times, min times.length c.valuesLeft ≤ c.versionsLeft →
      (c.turns times).hasHalted = false ∧
      Further c (c.turns times).counter (min times.length c.valuesLeft) ∧
      (c.turns times).answers.map (·.map UInt64.toNat) =
        (List.range' c.next.toNat (min times.length c.valuesLeft)).map some ++
          List.replicate (times.length - c.valuesLeft) none) ∧
    ∀ times, c.versionsLeft < min times.length c.valuesLeft →
      (c.turns times).hasHalted = true ∧
      (∃ last, Further c last c.versionsLeft ∧
        (c.turns times).counter = { last with next := last.next + 1 }) ∧
      (c.turns times).answers.map (·.map UInt64.toNat) =
        (List.range' c.next.toNat c.versionsLeft).map some := by
  refine ⟨fun now => advance_eq_full_iff.mpr, fun now room counts => ?_,
    fun now => advance_of_worn, fun times => turns_of_enough, fun times => turns_of_short⟩
  have taken : c.advance now = _ := advance_of_room room counts
  exact ⟨_, taken, further_of_taken taken, rfl⟩

/-- A counter with two values left. -/
def nearlyFull : Counter :=
  { inventory := ⟨"kegs", by decide⟩, next := 18446744073709551613, version := 40, createdAt := 1,
    updatedAt := 2 }

/-- A counter with values to give and one version left. -/
def nearlyWorn : Counter := { nearlyFull with next := 5, version := 18446744073709551614 }

theorem runs_end_full_or_halted :
    (nearlyFull.turns [5, 6, 7]).hasHalted = false ∧
    (nearlyFull.turns [5, 6, 7]).answers =
      [some 18446744073709551613, some 18446744073709551614, none] ∧
    (nearlyFull.turns [5, 6, 7]).counter.next = maxValue ∧
    (nearlyFull.turns [5, 6, 7]).counter.version.toNat = 42 ∧
    (nearlyFull.turns [5, 6, 7]).counter.advance 8 = .full ∧
    (nearlyWorn.turns [5, 6, 7]).hasHalted = true ∧
    (nearlyWorn.turns [5, 6, 7]).answers = [some 5] ∧
    (nearlyWorn.turns [5, 6, 7]).counter.next = 7 ∧
    (nearlyWorn.turns [5, 6, 7]).counter.version = maxValue := by
  have full : (nearlyFull.turns [5, 6, 7]).counter.next = maxValue := by decide
  have enough := (turns_count_exactly nearlyFull).2.2.2.1 [5, 6, 7] (by decide)
  have short := (turns_count_exactly nearlyWorn).2.2.2.2 [5, 6, 7] (by decide)
  refine ⟨enough.1, by decide, full, enough.2.1.version, ?_, short.1, by decide, by decide,
    by decide⟩
  exact (turns_count_exactly _).1 8 full

/-- A counter with values to give that is at its last version. -/
def worn : Counter := { nearlyFull with next := 5, version := 18446744073709551615 }

/-- Its document reads well and its next value is not the last, yet no value is taken. The taking
breaks off when the next value has been counted up. -/
theorem worn_version_breaks_off :
    Store.Folder.decodeBytes decode worn.document = .ok worn ∧ worn.next < maxValue ∧
    worn.advance 9 = .halted { worn with next := 6 } ∧ worn.advance? 9 = none ∧
    (worn.turns [9]).hasHalted = true := by
  refine ⟨decodeBytes_document ⟨by decide, by decide⟩, by decide, by decide, by decide, by decide⟩

end Mintmark.Counter
