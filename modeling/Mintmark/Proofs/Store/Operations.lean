import Mintmark.Store.Backend

/-!
# Operations

All that can be asked of a store about inventories, and what comes back, so that whole sequences of
operations can be compared between stores.
-/

namespace Mintmark.Store

inductive Operation where
  | allocate (id : InventoryId) (start : UInt64) (now : Int)
  | peek (id : InventoryId) (start : UInt64)
  | counter (id : InventoryId)
  | save (stored : StoredLayout)
  | load (id : InventoryId)
  | remove (id : InventoryId)

def Operation.id : Operation → InventoryId
  | allocate id _ _ | peek id _ | counter id | load id | remove id => id
  | save stored => stored.inventory

inductive Answer where
  | value (answer : Except StoreError UInt64)
  | counter (answer : Except StoreError (Option Counter))
  | saved (answer : Except StoreError Unit)
  | layout (answer : Except StoreError (Option StoredLayout))
  | removed (answer : Except StoreError Bool)

namespace Backend

variable {σ : Type} (b : Backend σ)

def perform : Operation → σ → Answer × σ
  | .allocate id start now => Prod.map .value (fun s => s) ∘ b.allocate id start now
  | .peek id start => Prod.map .value (fun s => s) ∘ b.peek id start
  | .counter id => Prod.map .counter (fun s => s) ∘ b.counter id
  | .save stored => Prod.map .saved (fun s => s) ∘ b.save stored
  | .load id => Prod.map .layout (fun s => s) ∘ b.load id
  | .remove id => Prod.map .removed (fun s => s) ∘ b.remove id

/-- The answers to some operations, one after another. -/
def answers : List Operation → σ → List Answer
  | [], _ => []
  | op :: ops, s => (b.perform op s).1 :: answers ops (b.perform op s).2

def after (ops : List Operation) (s : σ) : σ := ops.foldl (fun s op => (b.perform op s).2) s

/-- The answers to those operations that are about one inventory. -/
def answersOn (id : InventoryId) (ops : List Operation) (s : σ) : List Answer :=
  ((ops.zip (b.answers ops s)).filter fun e => e.1.id = id).map (·.2)

variable {b}

theorem answersOn_cons (id : InventoryId) (op : Operation) (ops : List Operation) (s : σ) :
    b.answersOn id (op :: ops) s =
      if op.id = id then (b.perform op s).1 :: b.answersOn id ops (b.perform op s).2
      else b.answersOn id ops (b.perform op s).2 := by
  rw [answersOn, answers, List.zip_cons_cons, List.filter_cons]
  by_cases here : op.id = id <;> simp [here, answersOn]

theorem answers_append (front back : List Operation) (s : σ) :
    b.answers (front ++ back) s = b.answers front s ++ b.answers back (b.after front s) := by
  induction front generalizing s with
  | nil => rfl
  | cons op front ih =>
    rw [List.cons_append, answers, answers, List.cons_append, ih]
    rfl

theorem length_answers (ops : List Operation) (s : σ) : (b.answers ops s).length = ops.length := by
  induction ops generalizing s with
  | nil => rfl
  | cons op ops ih => rw [answers, List.length_cons, List.length_cons, ih]

theorem after_append (front back : List Operation) (s : σ) :
    b.after (front ++ back) s = b.after back (b.after front s) := List.foldl_append

theorem answersOn_append (id : InventoryId) (front back : List Operation) (s : σ) :
    b.answersOn id (front ++ back) s =
      b.answersOn id front s ++ b.answersOn id back (b.after front s) := by
  induction front generalizing s with
  | nil => rfl
  | cons op front ih =>
    rw [List.cons_append, answersOn_cons, answersOn_cons, ih]
    split <;> rfl

end Backend
end Mintmark.Store
