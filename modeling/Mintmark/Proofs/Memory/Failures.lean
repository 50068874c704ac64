import Mintmark.Proofs.Store.Ledger

/-!
# Takings that fail

In memory a counter is made before a value is taken from it. So the taking that finds no value may
have made the counter it fails on, which is full from the start and stays. That is all that a taking
can leave behind when it fails, and only if it is the first of its inventory.
-/

namespace Mintmark.Store

namespace Backend

variable {σ : Type} {b : Backend σ}

/-- Leaving the operation out of a run at this point changes no other answer, whatever follows. -/
def Spares (b : Backend σ) (front : List Operation) (op : Operation) (s : σ) : Prop :=
  ∀ back, (b.answers (front ++ op :: back) s).eraseIdx front.length = b.answers (front ++ back) s

theorem spares_iff {front : List Operation} {op : Operation} {s : σ} :
    b.Spares front op s ↔
      ∀ back, b.answers back (b.perform op (b.after front s)).2 =
        b.answers back (b.after front s) := by
  refine forall_congr' fun back => ?_
  rw [answers_append, answers_append, answers,
    List.eraseIdx_append_of_length_le (Nat.le_of_eq (length_answers front s)), length_answers,
    Nat.sub_self, List.eraseIdx_cons_zero, List.append_cancel_left_eq]

end Backend

namespace Memory

variable {m n : Memory} {id other : InventoryId} {start : UInt64} {now : Int}

theorem peek_of_error {error : StoreError} (failed : (allocate id start now m).1 = .error error) :
    error = .overflow id.text ∧ m.peek id start = Counter.maxValue := by
  rw [allocate_fst] at failed
  cases advanced : (m.met id start now).advance? now with
  | none =>
    rw [advanced] at failed
    cases failed
    rw [(m.counted_met id start now).advance?_eq_none_iff, next_met] at advanced
    exact ⟨rfl, advanced⟩
  | some pair =>
    rw [advanced] at failed
    cases failed

/-- A taking that fails upon a counter that was there leaves the store as it was. -/
theorem allocate_eq_of_found {error : StoreError} {counter : Counter}
    (failed : (allocate id start now m).1 = .error error)
    (found : m.counters.find? id = some counter) : (allocate id start now m).2 = m := by
  have full := (peek_of_error failed).2
  rw [peek, found] at full
  rw [allocate_of_full found (Counter.advance?_of_full full)]

/-- Only a fresh counter can be full that starts full. -/
theorem found_of_error {error : StoreError} (failed : (allocate id start now m).1 = .error error)
    (room : start ≠ Counter.maxValue) : ∃ counter, m.counters.find? id = some counter := by
  have full := (peek_of_error failed).2
  rw [peek] at full
  cases found : m.counters.find? id with
  | some counter => exact ⟨counter, rfl⟩
  | none =>
    rw [found] at full
    exact absurd full room

/-- The two stores hold the same for an inventory. -/
def AgreeOn (id : InventoryId) (m n : Memory) : Prop :=
  m.counters.find? id = n.counters.find? id ∧ m.layouts.find? id = n.layouts.find? id

theorem AgreeOn.perform_own {op : Operation} (agree : AgreeOn op.id m n) :
    (backend.perform op m).1 = (backend.perform op n).1 ∧
      AgreeOn op.id (backend.perform op m).2 (backend.perform op n).2 := by
  have same := agree
  obtain ⟨counters, layouts⟩ := agree
  cases op with
  | allocate id start now =>
    change m.counters.find? id = n.counters.find? id at counters
    change m.layouts.find? id = n.layouts.find? id at layouts
    have met : m.met id start now = n.met id start now := by
      rw [Memory.met, counters, ← Memory.met]
    refine ⟨congrArg Answer.value ?_, ?_, ?_⟩
    · change (allocate id start now m).1 = (allocate id start now n).1
      rw [allocate_fst, allocate_fst, met]
    · change (allocate id start now m).2.counters.find? id =
        (allocate id start now n).2.counters.find? id
      rw [find?_allocate, find?_allocate, met, if_pos rfl, if_pos rfl]
    · change (allocate id start now m).2.layouts.find? id =
        (allocate id start now n).2.layouts.find? id
      rw [layouts_allocate, layouts_allocate, layouts]
  | peek id start =>
    refine ⟨congrArg (Answer.value ∘ Except.ok) ?_, same⟩
    rw [Memory.peek, Memory.peek, show m.counters.find? id = _ from counters]
    rfl
  | counter id => exact ⟨congrArg (Answer.counter ∘ Except.ok) counters, same⟩
  | save stored =>
    refine ⟨rfl, counters, ?_⟩
    change (m.layouts.insert stored.inventory stored).find? stored.inventory =
      (n.layouts.insert stored.inventory stored).find? stored.inventory
    rw [Table.find?_insert, Table.find?_insert, if_pos rfl, if_pos rfl]
  | load id => exact ⟨congrArg (Answer.layout ∘ Except.ok) layouts, same⟩
  | remove id =>
    refine ⟨congrArg (Answer.removed ∘ Except.ok ∘ Option.isSome) layouts, counters, ?_⟩
    change (m.layouts.erase id).find? id = (n.layouts.erase id).find? id
    rw [Table.find?_erase, Table.find?_erase, if_pos rfl, if_pos rfl]

/-- What is done about one inventory is not seen by the others. -/
theorem agreeOn_perform {op : Operation} (away : op.id ≠ other) (m : Memory) :
    AgreeOn other (backend.perform op m).2 m := by
  cases op with
  | allocate id start now =>
    constructor
    · change (allocate id start now m).2.counters.find? other = _
      rw [find?_allocate, if_neg (show other ≠ id from away.symm)]
    · change (allocate id start now m).2.layouts.find? other = _
      rw [layouts_allocate]
  | save stored =>
    refine ⟨rfl, ?_⟩
    change (m.layouts.insert stored.inventory stored).find? other = _
    rw [Table.find?_insert, if_neg (show other ≠ stored.inventory from away.symm)]
  | remove id =>
    refine ⟨rfl, ?_⟩
    change (m.layouts.erase id).find? other = _
    rw [Table.find?_erase, if_neg (show other ≠ id from away.symm)]
  | peek | counter | load => exact ⟨rfl, rfl⟩

theorem AgreeOn.answersOn {ops : List Operation} (agree : AgreeOn id m n) :
    backend.answersOn id ops m = backend.answersOn id ops n := by
  induction ops generalizing m n with
  | nil => rfl
  | cons op ops ih =>
    rw [Backend.answersOn_cons, Backend.answersOn_cons]
    by_cases own : op.id = id
    · subst own
      obtain ⟨answer, agree⟩ := agree.perform_own
      rw [if_pos rfl, if_pos rfl, answer, ih agree]
    · rw [if_neg own, if_neg own]
      apply ih
      have left := agreeOn_perform own m
      have right := agreeOn_perform own n
      exact ⟨left.1.trans (agree.1.trans right.1.symm), left.2.trans (agree.2.trans right.2.symm)⟩

/-- A counter is there from the first taking on, whether it gives a value or not. -/
theorem find?_perform_eq_none_iff (op : Operation) (m : Memory) (id : InventoryId) :
    (backend.perform op m).2.counters.find? id = none ↔
      m.counters.find? id = none ∧ ∀ start now, op ≠ .allocate id start now := by
  by_cases taking : ∃ start now, op = .allocate id start now
  · obtain ⟨start, now, rfl⟩ := taking
    have made := find?_allocate m id id start now
    rw [if_pos rfl] at made
    refine iff_of_false (fun none => ?_) fun away => away.2 start now rfl
    exact Option.some_ne_none _ (made.symm.trans none)
  · have apart : ∀ start now, op ≠ .allocate id start now :=
      fun start now eq => taking ⟨start, now, eq⟩
    rw [and_iff_left apart]
    cases op with
    | allocate other start now =>
      have away : id ≠ other := by
        rintro rfl
        exact apart start now rfl
      rw [(agreeOn_perform (Ne.symm away) m).1]
    | peek | counter | save | load | remove => rfl

theorem find?_after_eq_none_iff (ops : List Operation) (m : Memory) (id : InventoryId) :
    (backend.after ops m).counters.find? id = none ↔
      m.counters.find? id = none ∧ ∀ start now, .allocate id start now ∉ ops := by
  induction ops generalizing m with
  | nil => simp [Backend.after]
  | cons op ops ih =>
    change (backend.after ops (backend.perform op m).2).counters.find? id = none ↔ _
    rw [ih, find?_perform_eq_none_iff]
    grind

/-- A full counter stays as it is. -/
theorem find?_perform_of_full {counter : Counter} (full : counter.next = Counter.maxValue)
    (found : m.counters.find? id = some counter) (op : Operation) :
    (backend.perform op m).2.counters.find? id = some counter := by
  by_cases own : op.id = id
  · cases op with
    | allocate other start now =>
      cases own
      have stuck : allocate other start now m = _ :=
        allocate_of_full found (Counter.advance?_of_full full)
      change (allocate other start now m).2.counters.find? other = _
      rw [stuck]
      exact found
    | peek | counter | save | load | remove => exact found
  · rw [(agreeOn_perform own m).1, found]

theorem find?_after_of_full {counter : Counter} (full : counter.next = Counter.maxValue)
    (found : m.counters.find? id = some counter) (ops : List Operation) :
    (backend.after ops m).counters.find? id = some counter := by
  induction ops generalizing m with
  | nil => exact found
  | cons op ops ih => exact ih (find?_perform_of_full full found op)

/-- The counter on which a taking fails is there afterwards, and full. -/
theorem full_of_error {error : StoreError} (failed : (allocate id start now m).1 = .error error) :
    (m.met id start now).next = Counter.maxValue ∧
      (allocate id start now m).2.counters.find? id = some (m.met id start now) := by
  have full : (m.met id start now).next = Counter.maxValue := by
    rw [next_met]
    exact (peek_of_error failed).2
  refine ⟨full, ?_⟩
  rw [find?_allocate, if_pos rfl, Counter.advance?_of_full full]
  rfl

theorem spares_of_found {front : List Operation} {error : StoreError}
    (failed : (allocate id start now (backend.after front .empty)).1 = .error error)
    (found : (backend.after front .empty).counters.find? id ≠ none) :
    backend.Spares front (.allocate id start now) .empty := by
  obtain ⟨counter, here⟩ := Option.ne_none_iff_exists'.mp found
  rw [Backend.spares_iff]
  intro back
  have same : (backend.perform (.allocate id start now) (backend.after front .empty)).2 =
    backend.after front .empty := allocate_eq_of_found failed here
  rw [same]

/-- The state of the inventory tells that the taking was made. -/
theorem not_spares_of_not_found {front : List Operation}
    (absent : (backend.after front .empty).counters.find? id = none) :
    ¬ backend.Spares front (.allocate id start now) .empty := by
  intro spares
  rw [Backend.spares_iff] at spares
  have asked := spares [.counter id]
  have same : (backend.perform (.allocate id start now)
      (backend.after front .empty)).2.counters.find? id = none := by
    rw [← absent]
    exact Except.ok.inj (Answer.counter.inj (List.head_eq_of_cons_eq asked))
  exact ((find?_perform_eq_none_iff ..).mp same).2 start now rfl

/-- A taking that fails can be left out of a run unless it is the first of its inventory, and the
first one fails only if it starts at the end. Then what it leaves is a full counter, which stays and
is not seen by other inventories. -/
theorem failed_taking_leaves_at_most_a_full_counter {front : List Operation} {id : InventoryId}
    {start : UInt64} {now : Int} {error : StoreError}
    (failed : (allocate id start now (backend.after front .empty)).1 = .error error) :
    error = .overflow id.text ∧
    (backend.Spares front (.allocate id start now) .empty ↔
      ∃ start now, .allocate id start now ∈ front) ∧
    (start ≠ Counter.maxValue → backend.Spares front (.allocate id start now) .empty) ∧
    (∀ ops, ((backend.after ops .empty).counters.find? id = none ↔
      ∀ start now, .allocate id start now ∉ ops)) ∧
    (∃ counter, counter.next = Counter.maxValue ∧ ∀ back,
      (backend.after (front ++ .allocate id start now :: back) .empty).counters.find? id =
        some counter) ∧
    ∀ other ≠ id, ∀ back,
      backend.answersOn other (front ++ .allocate id start now :: back) .empty =
        backend.answersOn other (front ++ back) .empty := by
  have absent_iff (ops : List Operation) :
      (backend.after ops .empty).counters.find? id = none ↔
        ∀ start now, .allocate id start now ∉ ops := by
    rw [find?_after_eq_none_iff]
    exact and_iff_right rfl
  have present_iff : (backend.after front .empty).counters.find? id ≠ none ↔
      ∃ start now, .allocate id start now ∈ front := by
    rw [Ne, absent_iff]
    grind
  refine ⟨(peek_of_error failed).1, ?_, ?_, absent_iff, ?_, ?_⟩
  · rw [← present_iff]
    exact ⟨fun spares absent => not_spares_of_not_found absent spares, spares_of_found failed⟩
  · intro room
    obtain ⟨counter, found⟩ := found_of_error failed room
    exact spares_of_found failed (by simp [found])
  · obtain ⟨full, made⟩ := full_of_error failed
    refine ⟨_, full, fun back => ?_⟩
    rw [Backend.after_append]
    exact find?_after_of_full full made back
  · intro other away back
    have apart : (Operation.allocate id start now).id ≠ other := away.symm
    have unseen := agreeOn_perform apart (backend.after front .empty)
    rw [Backend.answersOn_append, Backend.answersOn_append, Backend.answersOn_cons, if_neg apart,
      unseen.answersOn]

def parcels : InventoryId := ⟨"parcels", by decide⟩

theorem second_parcel_taking_is_spared :
    (allocate parcels 1 5
      (backend.after [.allocate parcels (Counter.maxValue - 1) 3] .empty)).1 =
        .error (.overflow "parcels") ∧
    backend.Spares [.allocate parcels (Counter.maxValue - 1) 3] (.allocate parcels 1 5) .empty := by
  have failed : (allocate parcels 1 5
      (backend.after [.allocate parcels (Counter.maxValue - 1) 3] .empty)).1 =
        .error (.overflow "parcels") := rfl
  refine ⟨failed, ?_⟩
  exact (failed_taking_leaves_at_most_a_full_counter failed).2.1.mpr
    ⟨_, _, List.mem_singleton_self _⟩

/-- The first taking of an inventory that starts at the end. -/
theorem first_taking_at_the_end_is_not_spared :
    ¬ ∀ (front back : List Operation) (id : InventoryId) (start : UInt64) (now : Int)
      (error : StoreError),
      (allocate id start now (backend.after front .empty)).1 = .error error →
      (backend.answers (front ++ .allocate id start now :: back) .empty).eraseIdx front.length =
        backend.answers (front ++ back) .empty := by
  intro claim
  have failed : (allocate parcels Counter.maxValue 5 .empty).1 = .error (.overflow "parcels") := rfl
  have unspared : ¬ backend.Spares [] (.allocate parcels Counter.maxValue 5) .empty :=
    not_spares_of_not_found rfl
  exact unspared fun back => claim [] back _ _ _ _ failed

end Memory
end Mintmark.Store
