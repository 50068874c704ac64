import Mintmark.Json.Reading

/-!
# Decoding

A decoder turns a tree into a value of a domain type. It goes through the tree in the order of the
text and reports what it meets first: a value of the wrong sort (`data`) or a place where the text
makes no sense (`grammar`).

A record is decoded from an object, whose entries may come in any order and may hold unknown keys,
or from an array of its fields in their order.
-/

namespace Mintmark.Json

inductive Fault where
  | data
  | grammar
deriving DecidableEq, Repr

abbrev Decoder (α : Type) := Tree → Except Fault α

namespace Tree

/-- The fault of a value that is not of the sort expected. -/
def mismatch : Tree → Fault
  | unreadable | malformed => .grammar
  | null | bool _ | number _ | string _ | array .. | object .. => .data

end Tree

namespace Decoder

def string : Decoder String
  | .string s => .ok s
  | tree => .error tree.mismatch

def bool : Decoder Bool
  | .bool b => .ok b
  | tree => .error tree.mismatch

/-- A natural number below a bound. -/
def natBelow (bound : Nat) : Decoder Nat
  | .number n =>
    match n.natural? with
    | some value => if value < bound then .ok value else .error .data
    | none => .error .data
  | tree => .error tree.mismatch

/-- An integer of 64 bits with its sign. -/
def int64 : Decoder Int
  | .number n =>
    match n.integer? with
    | some value => if Number.fits64 value then .ok value else .error .data
    | none => .error .data
  | tree => .error tree.mismatch

def word64 : Decoder UInt64 := fun tree => (natBelow Number.bound64 tree).map Nat.toUInt64

def optional {α : Type} (decode : Decoder α) : Decoder (Option α)
  | .null => .ok none
  | tree => (decode tree).map some

def list {α : Type} (decode : Decoder α) : Decoder (List α)
  | .array items ended => do
    let values ← items.mapM decode
    if ended then .ok values else .error .grammar
  | tree => .error tree.mismatch

/-- One of some named values: its name, or an object with the name as its only key and null as
its value. -/
def named {α : Type} (ofName? : String → Option α) : Decoder α
  | .string s =>
    match ofName? s with
    | some a => .ok a
    | none => .error .data
  | .object ((.string s, value) :: rest) ended =>
    match ofName? s, value with
    | none, _ => .error .data
    | some a, .null => if rest.isEmpty && ended then .ok a else .error .grammar
    | some _, value => .error value.mismatch
  | .object ((key, _) :: _) _ => .error key.mismatch
  | _ => .error .grammar

/-- A field of a record under construction. -/
structure Slot (σ : Type) where
  names : List String
  isFilled : σ → Bool
  fill : σ → Decoder σ

/-- A field that is kept, once found, in an option. -/
def slot {σ α : Type} (names : List String) (get : σ → Option α) (set : σ → α → σ)
    (decode : Decoder α) : Slot σ where
  names
  isFilled s := (get s).isSome
  fill s tree := (decode tree).map (set s)

/-- Takes in one entry of an object. An entry of an unknown key only has to be there. -/
def entry {σ : Type} (slots : List (Slot σ)) (s : σ) : Tree × Tree → Except Fault σ
  | (.string key, value) =>
    match slots.find? (key ∈ ·.names) with
    | some slot => if slot.isFilled s then .error .data else slot.fill s value
    | none => if value.isWhole then .ok s else .error .grammar
  | _ => .error .grammar

/-- Fills the fields from values in their order, as far as there are any. -/
def positional {σ : Type} : List (Slot σ) → σ → List Tree → Bool → Except Fault σ
  | _, s, [], ended => if ended then .ok s else .error .grammar
  | [], _, _ :: _, _ => .error .grammar
  | slot :: slots, s, item :: items, ended => do
    let s ← slot.fill s item
    positional slots s items ended

def record {σ : Type} (slots : List (Slot σ)) (start : σ) : Decoder σ
  | .object entries ended => do
    let s ← entries.foldlM (entry slots) start
    if ended then .ok s else .error .grammar
  | .array items ended => positional slots start items ended
  | tree => .error tree.mismatch

/-- A field without which there is no record. -/
def required {α : Type} : Option α → Except Fault α
  | some a => .ok a
  | none => .error .data

/-- Decodes a whole text. -/
def ofText {α : Type} (decode : Decoder α) (text : String) : Except Fault α := do
  let reading := read text.toList
  let value ← decode reading.tree
  if reading.isClean then .ok value else .error .grammar

end Decoder
end Mintmark.Json
