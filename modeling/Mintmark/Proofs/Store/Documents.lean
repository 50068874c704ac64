import Mintmark.Proofs.Json.Bytes
import Mintmark.Proofs.Json.Printed
import Mintmark.Store.Folder

/-!
# Documents

A counter whose times have 64 bits is read back from its document as it was, and so is a layout
whose positions do.
-/

namespace Mintmark

open Json (Value Decoder)

theorem Number.natAbs_lt_of_fits64 {i : Int} (fits : fits64 i = true) : i.natAbs < bound64 := by
  simp only [fits64, least64, Bool.and_eq_true, decide_eq_true_eq] at fits
  simp only [bound64]
  omega

namespace Json.Decoder

theorem word64_ofNat (n : UInt64) : word64 (.number (.ofNat n.toNat)) = .ok n := by
  have fits : n.toNat < Number.bound64 := n.toNat_lt
  simp [word64, natBelow, Json.Numeral.natural?_ofNat, if_pos fits, Except.map]

theorem int64_ofInt {i : Int} (fits : Number.fits64 i = true) :
    int64 (.number (.ofInt i)) = .ok i := by
  simp [int64, Json.Numeral.integer?_ofInt, fits]

theorem natBelow_ofNat {bound n : Nat} (lt : n < bound) :
    natBelow bound (.number (.ofNat n)) = .ok n := by
  simp [natBelow, Json.Numeral.natural?_ofNat, if_pos lt]

end Json.Decoder

namespace Store.Folder

/-- What is read back from the bytes of a document is what its decoder finds in the value. -/
theorem decodeBytes_prettyText {α : Type} {decode : Decoder α} {v : Value} {a : α} (plain : v.Plain)
    (decoded : decode v.toTree = .ok a) : decodeBytes decode v.prettyText.toUTF8 = .ok a := by
  rw [decodeBytes, Decoder.ofBytes_toUTF8, Decoder.ofText_prettyText decode plain, decoded]
  rfl

theorem prettyText_nonempty (entries : List (String × Value)) :
    (Value.object entries).prettyText.toUTF8.isEmpty = false := by
  have filled : (Value.object entries).prettyText ≠ "" := by
    intro empty
    have chars := congrArg String.toList empty
    rw [Value.prettyText, String.toList_ofList] at chars
    cases entries <;> cases chars
  cases empty : (Value.object entries).prettyText.toUTF8.isEmpty with
  | false => rfl
  | true =>
    rw [String.toUTF8_eq_toByteArray, ByteArray.isEmpty, beq_iff_eq, String.size_toByteArray,
      String.utf8ByteSize_eq_zero_iff] at empty
    exact absurd empty filled

end Store.Folder

theorem InventoryId.text_inj {id other : InventoryId} : id.text = other.text ↔ id = other := by
  cases id
  cases other
  rw [InventoryId.mk.injEq]

theorem InventoryId.decode_text (id : InventoryId) : decode (.string id.text) = .ok id := by
  have parsed := id.parse_text
  simp only [decode, Decoder.string]
  change (parse id.text).mapError _ = _
  rw [parsed]
  rfl

namespace Counter

/-- The times of the counter have 64 bits. -/
structure Timed (c : Counter) : Prop where
  created : Number.fits64 c.createdAt = true
  updated : Number.fits64 c.updatedAt = true

/-- A counter as a store makes and keeps it: it can be written, and no taking breaks off at it. -/
structure Regular (c : Counter) : Prop where
  timed : c.Timed
  counted : c.Counted

variable {c : Counter}

theorem plain_encode (timed : c.Timed) : c.encode.Plain :=
  ⟨trivial, ⟨_, Json.Numeral.fitting_ofNat c.next.toNat_lt⟩,
    ⟨_, Json.Numeral.fitting_ofNat c.version.toNat_lt⟩,
    ⟨_, Json.Numeral.fitting_ofInt (Number.natAbs_lt_of_fits64 timed.created)⟩,
    ⟨_, Json.Numeral.fitting_ofInt (Number.natAbs_lt_of_fits64 timed.updated)⟩, trivial⟩

theorem decode_encode (timed : c.Timed) : decode c.encode.toTree = .ok c := by
  have inventory := c.inventory.decode_text
  have next := Decoder.word64_ofNat c.next
  have version := Decoder.word64_ofNat c.version
  have created := Decoder.int64_ofInt timed.created
  have updated := Decoder.int64_ofInt timed.updated
  simp [decode, encode, InventoryId.encode, Value.toTree, Value.entriesToTrees, Value.nat, Value.int,
    Decoder.record, slots, Decoder.slot, Decoder.entry, inventory, next, version, created, updated,
    Except.map, Decoder.required, bind, Except.bind, pure, Except.pure]

theorem regular_getD {found : Option Counter} {now : Int} (fits : Number.fits64 now = true)
    (regular : ∀ counter ∈ found, counter.Regular) (id : InventoryId) (start : UInt64) :
    (found.getD (.fresh id start now)).Regular := by
  cases found with
  | none => exact ⟨⟨fits, fits⟩, counted_fresh id start now⟩
  | some counter => exact regular counter rfl

theorem Regular.of_advance? (regular : c.Regular) {d : Counter} {now : Int} {value : UInt64}
    (fits : Number.fits64 now = true) (advanced : c.advance? now = some (value, d)) :
    d.Regular := by
  refine ⟨?_, regular.counted.of_advance? advanced⟩
  obtain ⟨-, -, -, rfl⟩ := eq_of_advance? advanced
  exact ⟨regular.timed.created, fits⟩

def document (c : Counter) : ByteArray := c.encode.prettyText.toUTF8

theorem decodeBytes_document (timed : c.Timed) :
    Store.Folder.decodeBytes decode c.document = .ok c :=
  Store.Folder.decodeBytes_prettyText (plain_encode timed) (decode_encode timed)

theorem document_nonempty (c : Counter) : c.document.isEmpty = false :=
  Store.Folder.prettyText_nonempty _

end Counter

namespace Element

variable {e : Element}

theorem plain_encode (fits : e.order < Number.bound64) : e.encode.Plain := by
  have order : Value.PlainEntries [("order", .nat e.order)] :=
    ⟨⟨_, Json.Numeral.fitting_ofNat fits⟩, trivial⟩
  rcases e with ⟨kind, _ | value, _ | format, position⟩
  · exact ⟨trivial, order⟩
  · exact ⟨trivial, trivial, order⟩
  · exact ⟨trivial, trivial, order⟩
  · exact ⟨trivial, trivial, trivial, order⟩

theorem decode_encode (fits : e.order < Number.bound64) : decode e.encode.toTree = .ok e := by
  have kind : Decoder.named Kind.ofName? (.string e.kind.name) = .ok e.kind := by
    rw [Decoder.named, Kind.ofName?_name]
  have order : decodeOrder (.number (.ofNat e.order)) = .ok e.order := Decoder.natBelow_ofNat fits
  rcases e with ⟨kind, _ | value, _ | format, position⟩ <;>
    simp [decode, encode, Value.toTree, Value.entriesToTrees, Value.nat, Decoder.record,
      ElementParts.slots, Decoder.slot, Decoder.entry, kind, order, Decoder.optional, Decoder.string,
      Except.map, Decoder.required, bind, Except.bind, pure, Except.pure]

end Element

namespace Layout

/-- The positions of the elements have 64 bits. -/
def Fits (l : Layout) : Prop := ∀ e ∈ l.elements, e.order < Number.bound64

variable {l : Layout}

theorem plain_encode (fits : l.Fits) : l.encode.Plain := by
  change Value.PlainItems (l.elements.map Element.encode)
  rw [Fits] at fits
  generalize l.elements = es at fits
  induction es with
  | nil => trivial
  | cons e es ih =>
    rw [List.forall_mem_cons] at fits
    exact ⟨e.plain_encode fits.1, ih fits.2⟩

theorem mapM_encode {α : Type} {decode : Decoder α} {read : Element → α} {es : List Element}
    (each : ∀ e ∈ es, decode e.encode.toTree = .ok (read e)) :
    (Value.itemsToTrees (es.map Element.encode)).mapM decode = .ok (es.map read) := by
  induction es with
  | nil => rfl
  | cons e es ih =>
    rw [List.forall_mem_cons] at each
    rw [List.map_cons, Value.itemsToTrees, List.mapM_cons, each.1, ih each.2]
    rfl

/-- Whoever reads the elements one by one reads the list of them. -/
theorem list_encode {α : Type} {decode : Decoder α} {read : Element → α}
    (each : ∀ e ∈ l.elements, decode e.encode.toTree = .ok (read e)) :
    Decoder.list decode l.encode.toTree = .ok (l.elements.map read) := by
  rw [encode, Value.toTree, Decoder.list, mapM_encode each]
  rfl

theorem decode_encode (fits : l.Fits) : decode l.encode.toTree = .ok l := by
  have read := list_encode fun e member => Element.decode_encode (fits e member)
  rw [List.map_id'] at read
  rw [decode, read, Except.map, ofElements_elements]

end Layout

namespace Store.StoredLayout

variable {s : StoredLayout}

theorem plain_encode (fits : s.layout.Fits) : s.encode.Plain :=
  ⟨trivial, Layout.plain_encode fits, trivial, trivial⟩

theorem decode_encode (fits : s.layout.Fits) : decode s.encode.toTree = .ok s := by
  have inventory := s.inventory.decode_text
  have layout := Layout.decode_encode fits
  simp [decode, encode, InventoryId.encode, Value.toTree, Value.entriesToTrees, Decoder.record, slots,
    Decoder.slot, Decoder.entry, inventory, layout, Decoder.string, Except.map, Decoder.required,
    bind, Except.bind, pure, Except.pure]

def document (s : StoredLayout) : ByteArray := s.encode.prettyText.toUTF8

theorem decodeBytes_document (fits : s.layout.Fits) :
    Folder.decodeBytes decode s.document = .ok s :=
  Folder.decodeBytes_prettyText (plain_encode fits) (decode_encode fits)

theorem document_nonempty (s : StoredLayout) : s.document.isEmpty = false :=
  Folder.prettyText_nonempty _

end Store.StoredLayout

end Mintmark
