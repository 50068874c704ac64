import Mintmark.Text.Blank

/-!
# Inventory ids

An inventory id is a text that can stand in a path and in a key: not empty, not too long, and
without blanks or control characters.
-/

namespace Mintmark

inductive IdFault where
  | empty
  | tooLong (limit : Nat)
  | blank
deriving DecidableEq, Repr

def IdFault.message : IdFault → String
  | empty => "inventory id cannot be empty"
  | tooLong limit => s!"inventory id cannot exceed {limit} characters"
  | blank => "inventory id cannot contain whitespace"

/-- The most bytes an id may take in UTF-8. -/
def maxIdBytes : Nat := 255

/-- What keeps a text from being an inventory id. -/
def idFault? (s : String) : Option IdFault :=
  if s.isEmpty then some .empty
  else if maxIdBytes < s.utf8ByteSize then some (.tooLong maxIdBytes)
  else if s.toList.any fun c => Text.isBlank c || Text.isControl c then some .blank
  else none

structure InventoryId where
  text : String
  faultless : idFault? text = none
deriving DecidableEq, Repr

namespace InventoryId

def parse (s : String) : Except IdFault InventoryId :=
  match h : idFault? s with
  | none => .ok ⟨s, h⟩
  | some fault => .error fault

theorem parse_text (id : InventoryId) : parse id.text = .ok id := by
  obtain ⟨text, faultless⟩ := id
  simp only [parse]
  split
  · rfl
  · next h => rw [faultless] at h; cases h

theorem text_of_parse {s : String} {id : InventoryId} (h : parse s = .ok id) : id.text = s := by
  unfold parse at h
  split at h
  · cases h; rfl
  · cases h

end InventoryId
end Mintmark
