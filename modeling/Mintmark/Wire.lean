import Mintmark.Json.Decode
import Mintmark.Json.Printer
import Mintmark.Store.Backend

/-!
# Wire forms

How elements, drafts, layouts and counters are written as JSON and read back. What an element leaves
out is not written, while a draft has all of its four entries. A layout is the list of its elements
and is sorted again when it is read.
-/

namespace Mintmark

open Json (Value Fault Decoder)
open Json.Decoder (slot required)

/-- The parts of an element or a draft found so far. -/
structure ElementParts (Kind Order : Type) where
  kind : Option Kind := none
  value : Option (Option String) := none
  format : Option (Option String) := none
  order : Option Order := none

namespace ElementParts

/-- The fields of elements and drafts, which differ in what a kind and an order may be. -/
def slots {Kind Order : Type} (kind : Decoder Kind) (order : Decoder Order) :
    List (Decoder.Slot (ElementParts Kind Order)) :=
  [slot ["element_type", "elementType"] (·.kind) ({ · with kind := some · }) kind,
    slot ["value"] (·.value) ({ · with value := some · }) (.optional .string),
    slot ["format"] (·.format) ({ · with format := some · }) (.optional .string),
    slot ["order"] (·.order) ({ · with order := some · }) order]

end ElementParts

/-- Positions are read as words of 64 bits. -/
def decodeOrder : Decoder Nat := .natBelow Number.bound64

namespace Element

def encode (e : Element) : Value :=
  .object <|
    [("element_type", .string e.kind.name)]
      ++ (e.value.map fun s => ("value", Value.string s)).toList
      ++ (e.format.map fun s => ("format", Value.string s)).toList
      ++ [("order", .nat e.order)]

def decode : Decoder Element := fun tree => do
  let parts ← Decoder.record (ElementParts.slots (.named Kind.ofName?) decodeOrder) {} tree
  let kind ← required parts.kind
  return { kind, value := parts.value.join, format := parts.format.join,
           order := parts.order.getD 0 }

end Element

namespace Draft

def encode (d : Draft) : Value :=
  .object
    [("element_type", .string d.kind), ("value", .optional .string d.value),
      ("format", .optional .string d.format), ("order", .optional .nat d.order)]

def decode : Decoder Draft := fun tree => do
  let parts ← Decoder.record (ElementParts.slots .string (.optional decodeOrder)) {} tree
  let kind ← required parts.kind
  return { kind, value := parts.value.join, format := parts.format.join, order := parts.order.join }

end Draft

namespace Layout

def encode (l : Layout) : Value := .array (l.elements.map Element.encode)

def decode : Decoder Layout := fun tree =>
  (Decoder.list Element.decode tree).map ofElements

end Layout

namespace InventoryId

def encode (id : InventoryId) : Value := .string id.text

def decode : Decoder InventoryId := fun tree => do
  let text ← Decoder.string tree
  (parse text).mapError fun _ => .data

end InventoryId

namespace Store.StoredLayout

structure Parts where
  inventory : Option InventoryId := none
  layout : Option Layout := none
  updatedAt : Option String := none

def slots : List (Decoder.Slot Parts) :=
  [slot ["inventory_id"] (·.inventory) ({ · with inventory := some · }) InventoryId.decode,
    slot ["elements"] (·.layout) ({ · with layout := some · }) Layout.decode,
    slot ["updated_at"] (·.updatedAt) ({ · with updatedAt := some · }) .string]

def encode (s : StoredLayout) : Value :=
  .object
    [("inventory_id", s.inventory.encode), ("elements", s.layout.encode),
      ("updated_at", .string s.updatedAt)]

def decode : Decoder StoredLayout := fun tree => do
  let parts ← Decoder.record slots {} tree
  let inventory ← required parts.inventory
  let layout ← required parts.layout
  let updatedAt ← required parts.updatedAt
  return { inventory, layout, updatedAt }

end Store.StoredLayout

namespace Counter

structure Parts where
  inventory : Option InventoryId := none
  next : Option UInt64 := none
  version : Option UInt64 := none
  createdAt : Option Int := none
  updatedAt : Option Int := none

def slots : List (Decoder.Slot Parts) :=
  [slot ["inventory_id"] (·.inventory) ({ · with inventory := some · }) InventoryId.decode,
    slot ["next_value"] (·.next) ({ · with next := some · }) .word64,
    slot ["version"] (·.version) ({ · with version := some · }) .word64,
    slot ["created_at"] (·.createdAt) ({ · with createdAt := some · }) .int64,
    slot ["updated_at"] (·.updatedAt) ({ · with updatedAt := some · }) .int64]

def encode (c : Counter) : Value :=
  .object
    [("inventory_id", c.inventory.encode), ("next_value", .nat c.next.toNat),
      ("version", .nat c.version.toNat), ("created_at", .int c.createdAt),
      ("updated_at", .int c.updatedAt)]

def decode : Decoder Counter := fun tree => do
  let parts ← Decoder.record slots {} tree
  let inventory ← required parts.inventory
  let next ← required parts.next
  let version ← required parts.version
  let createdAt ← required parts.createdAt
  let updatedAt ← required parts.updatedAt
  return { inventory, next, version, createdAt, updatedAt }

end Counter

/-- A list of drafts as the only entry of an object, or nothing. -/
def decodeDrafts : Decoder (List Draft) := fun tree =>
  (Decoder.record [slot ["elements"] id (fun _ drafts => some drafts) (.list Draft.decode)] none
    tree).map (·.getD [])

/-- The same where null stands for no drafts. -/
def decodeOptionalDrafts : Decoder (Option (List Draft)) := fun tree =>
  (Decoder.record
    [slot ["elements"] id (fun _ drafts => some drafts) (.optional (.list Draft.decode))] none
    tree).map Option.join

end Mintmark
