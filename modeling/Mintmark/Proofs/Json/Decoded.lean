import Mintmark.Json.Decode

/-!
# What decoders let through

Facts about a value that was decoded, from what is known of its parts: a decoded list has items that
were decoded one by one, and what every field of a record keeps is known of the whole record.
-/

namespace Mintmark

section

variable {ε α β : Type}

theorem exists_of_bind {x : Except ε α} {f : α → Except ε β} {b : β} (done : x >>= f = .ok b) :
    ∃ a, x = .ok a ∧ f a = .ok b := by
  cases x with
  | error fault => cases done
  | ok a => exact ⟨a, rfl, done⟩

theorem exists_of_map {x : Except ε α} {f : α → β} {b : β} (done : x.map f = .ok b) :
    ∃ a, x = .ok a ∧ f a = b := by
  cases x with
  | error fault => cases done
  | ok a =>
    cases done
    exact ⟨a, rfl, rfl⟩

theorem exists_of_mem_mapM {f : α → Except ε β} {as : List α} {bs : List β}
    (done : as.mapM f = .ok bs) {b : β} (member : b ∈ bs) : ∃ a ∈ as, f a = .ok b := by
  induction as generalizing bs with
  | nil =>
    cases done
    cases member
  | cons a as ih =>
    rw [List.mapM_cons] at done
    obtain ⟨first, one, done⟩ := exists_of_bind done
    obtain ⟨others, rest, done⟩ := exists_of_bind done
    cases done
    rcases List.mem_cons.mp member with rfl | behind
    · exact ⟨a, List.mem_cons_self, one⟩
    · obtain ⟨a', among, eq⟩ := ih rest behind
      exact ⟨a', List.mem_cons_of_mem _ among, eq⟩

/-- What every step of a fold keeps is known of its result. -/
theorem keeps_foldlM {P : β → Prop} {f : β → α → Except ε β} {as : List α}
    (step : ∀ a ∈ as, ∀ b b', f b a = .ok b' → P b → P b') {b b' : β}
    (done : as.foldlM f b = .ok b') (held : P b) : P b' := by
  induction as generalizing b with
  | nil =>
    cases done
    exact held
  | cons a as ih =>
    rw [List.forall_mem_cons] at step
    rw [List.foldlM_cons] at done
    obtain ⟨c, one, rest⟩ := exists_of_bind done
    exact ih step.2 rest (step.1 b c one held)

end

namespace Json.Decoder

theorem lt_of_natBelow {bound n : Nat} {tree : Tree} (read : natBelow bound tree = .ok n) :
    n < bound := by
  unfold natBelow at read
  split at read
  · split at read
    · split at read
      · next small =>
        cases read
        exact small
      · cases read
    · cases read
  · cases read

theorem exists_of_mem_list {α : Type} {decode : Decoder α} {tree : Tree} {as : List α}
    (read : list decode tree = .ok as) {a : α} (member : a ∈ as) : ∃ item, decode item = .ok a := by
  unfold list at read
  split at read
  · obtain ⟨values, all, read⟩ := exists_of_bind read
    split at read <;> cases read
    obtain ⟨item, -, decoded⟩ := exists_of_mem_mapM all member
    exact ⟨item, decoded⟩
  · cases read

section

variable {σ : Type} {P : σ → Prop} {slots : List (Slot σ)} {s s' : σ}

/-- Filling the field keeps what is known of the record. -/
def Slot.Keeps (P : σ → Prop) (slot : Slot σ) : Prop :=
  ∀ s tree s', slot.fill s tree = .ok s' → P s → P s'

theorem keeps_slot {α : Type} {names : List String} {get : σ → Option α} {set : σ → α → σ}
    {decode : Decoder α} (sets : ∀ s tree a, decode tree = .ok a → P s → P (set s a)) :
    (slot names get set decode).Keeps P := by
  intro s tree s' filled held
  obtain ⟨a, read, rfl⟩ := exists_of_map filled
  exact sets s tree a read held

theorem keeps_entry (keeps : ∀ slot ∈ slots, slot.Keeps P) {e : Tree × Tree}
    (taken : entry slots s e = .ok s') (held : P s) : P s' := by
  unfold entry at taken
  split at taken
  · split at taken
    · next slot found =>
      split at taken
      · cases taken
      · exact keeps slot (List.mem_of_find?_eq_some found) s _ s' taken held
    · split at taken <;> cases taken
      exact held
  · cases taken

theorem keeps_positional (keeps : ∀ slot ∈ slots, slot.Keeps P) {items : List Tree} {ended : Bool}
    (taken : positional slots s items ended = .ok s') (held : P s) : P s' := by
  induction items generalizing slots s with
  | nil =>
    rw [positional] at taken
    split at taken <;> cases taken
    exact held
  | cons item items ih =>
    cases slots with
    | nil => cases taken
    | cons slot slots =>
      rw [List.forall_mem_cons] at keeps
      rw [positional] at taken
      obtain ⟨t, filled, rest⟩ := exists_of_bind taken
      exact ih keeps.2 rest (keeps.1 s item t filled held)

/-- What every field keeps is known of the whole record. -/
theorem keeps_record (keeps : ∀ slot ∈ slots, slot.Keeps P) {tree : Tree}
    (read : record slots s tree = .ok s') (held : P s) : P s' := by
  unfold record at read
  split at read
  · obtain ⟨t, taken, read⟩ := exists_of_bind read
    split at read <;> cases read
    exact keeps_foldlM (fun _ _ _ _ => keeps_entry keeps) taken held
  · exact keeps_positional keeps read held
  · cases read

end

end Json.Decoder
end Mintmark
