/-!
# Tables

Finite maps, kept as a list of entries of which the first with a key counts. What an operation does
is said by what can be found afterwards.
-/

namespace Mintmark

structure Table (Key Value : Type) where
  entries : List (Key × Value) := []
deriving Repr

namespace Table

variable {Key Value : Type} [DecidableEq Key]

def empty : Table Key Value := ⟨[]⟩

instance : Inhabited (Table Key Value) := ⟨empty⟩

def find? (t : Table Key Value) (key : Key) : Option Value := t.entries.lookup key

def erase (t : Table Key Value) (key : Key) : Table Key Value :=
  ⟨t.entries.filter fun e => e.1 ≠ key⟩

def insert (t : Table Key Value) (key : Key) (value : Value) : Table Key Value :=
  ⟨(key, value) :: (t.erase key).entries⟩

def contains (t : Table Key Value) (key : Key) : Bool := (t.find? key).isSome

@[simp] theorem find?_empty (key : Key) : (empty : Table Key Value).find? key = none := rfl

theorem lookup_cons_eq (key other : Key) (value : Value) (es : List (Key × Value)) :
    List.lookup other ((key, value) :: es) = if other = key then some value else es.lookup other := by
  by_cases same : other = key
  · simp [same]
  · have : (other == key) = false := by simpa using same
    simp [List.lookup_cons, this, same]

@[simp] theorem find?_erase (t : Table Key Value) (key other : Key) :
    (t.erase key).find? other = if other = key then none else t.find? other := by
  obtain ⟨entries⟩ := t
  simp only [find?, erase]
  induction entries with
  | nil => simp
  | cons e es ih =>
    obtain ⟨k, v⟩ := e
    by_cases here : k = key
    · rw [List.filter_cons_of_neg (by simpa using here), ih, lookup_cons_eq]
      by_cases same : other = key <;> simp [same, here]
    · rw [List.filter_cons_of_pos (by simpa using here), lookup_cons_eq, ih, lookup_cons_eq]
      by_cases same : other = k
      · subst same; simp [here]
      · simp [same]

@[simp] theorem find?_insert (t : Table Key Value) (key other : Key) (value : Value) :
    (t.insert key value).find? other = if other = key then some value else t.find? other := by
  have away := find?_erase t key other
  simp only [find?] at away
  simp only [find?, insert, lookup_cons_eq, away]
  by_cases same : other = key <;> simp [same]

end Table
end Mintmark
