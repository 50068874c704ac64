import Mintmark.Proofs.Layout.Built
import Mintmark.Proofs.Layout.Verdicts

/-!
# Layouts read back

A layout is written as the list of its elements, sorted, and each with its position. So whoever reads
it as a layout finds nothing to sort, and whoever reads it as drafts finds a position in each, which
is what he would have put there himself.
-/

namespace Mintmark

open Json (Value Decoder)

/-- The text of the value on one line and the indented one are both read as this. -/
structure Json.Value.ReadsAs {α : Type} (v : Value) (decode : Decoder α) (a : α) : Prop where
  line : Decoder.ofText decode v.text = .ok a
  indented : Decoder.ofText decode v.prettyText = .ok a

theorem readsAs_of_plain {α : Type} {v : Value} {decode : Decoder α} {a : α} (plain : v.Plain)
    (decoded : decode v.toTree = .ok a) : v.ReadsAs decode a := by
  constructor
  · rw [Decoder.ofText_text decode plain, decoded]
  · rw [Decoder.ofText_prettyText decode plain, decoded]

theorem Element.decode_draft {e : Element} (fits : e.order < Number.bound64) :
    Draft.decode e.encode.toTree = .ok e.toDraft := by
  have order : decodeOrder (.number (.ofNat e.order)) = .ok e.order := Decoder.natBelow_ofNat fits
  rcases e with ⟨kind, _ | value, _ | format, position⟩ <;>
    simp [Draft.decode, encode, toDraft, Value.toTree, Value.entriesToTrees, Value.nat,
      Decoder.record, ElementParts.slots, Decoder.slot, Decoder.entry, order, Decoder.optional,
      Decoder.string, Except.map, Decoder.required, bind, Except.bind, pure, Except.pure]

namespace Layout

variable {l : Layout}

theorem decode_drafts (fits : l.Fits) :
    Decoder.list Draft.decode l.encode.toTree = .ok l.toDrafts :=
  list_encode fun e member => e.decode_draft (fits e member)

/-- Every draft of a layout resolves to the element it was made from, wherever it stands. -/
theorem filterMap_toDraft (es : List Element) (first : Nat) :
    ((es.map Element.toDraft).zipIdx first).filterMap (fun (d, i) => d.toElement? i) = es := by
  induction es generalizing first with
  | nil => rfl
  | cons e es ih =>
    simp only [List.map_cons, List.zipIdx_cons, List.filterMap_cons, Draft.toElement?_toDraft, ih]

theorem ofDrafts_toDrafts (l : Layout) : ofDrafts l.toDrafts = .ok l := by
  have known : unknownKinds l.toDrafts = [] := by
    rw [unknownKinds_eq_nil_iff]
    intro d member
    obtain ⟨e, -, rfl⟩ := List.mem_map.mp member
    rw [Element.toDraft, Kind.ofName?_name]
    exact Option.some_ne_none e.kind
  rw [ofDrafts, known]
  dsimp only
  rw [toDrafts, filterMap_toDraft, ofElements_elements]

/-- Nothing of the layout is lost on the way through a text, be it read as a layout or as drafts. -/
structure ReadBack (l : Layout) : Prop where
  itself : l.encode.ReadsAs decode l
  drafts : l.encode.ReadsAs (Decoder.list Draft.decode) l.toDrafts
  resolved : ofDrafts l.toDrafts = .ok l

theorem readBack_of_fits (fits : l.Fits) : l.ReadBack where
  itself := readsAs_of_plain (plain_encode fits) (decode_encode fits)
  drafts := readsAs_of_plain (plain_encode fits) (decode_drafts fits)
  resolved := l.ofDrafts_toDrafts

/-- The body of a request that comes with the elements of a layout. -/
def body (l : Layout) : Value := .object [("elements", l.encode)]

theorem body_readsAs (fits : l.Fits) : l.body.ReadsAs decodeDrafts l.toDrafts := by
  have drafts := decode_drafts fits
  apply readsAs_of_plain
  · exact ⟨plain_encode fits, trivial⟩
  · simp [decodeDrafts, body, Value.toTree, Value.entriesToTrees, Decoder.record, Decoder.slot,
      Decoder.entry, drafts, Except.map, bind, Except.bind, pure, Except.pure]

end Layout

namespace Store.StoredLayout

variable {s : StoredLayout}

/-- A record serves as the body of a request too, for the elements in it. -/
theorem encode_readsAs_drafts (fits : s.layout.Fits) :
    s.encode.ReadsAs decodeDrafts s.layout.toDrafts := by
  have drafts := Layout.decode_drafts fits
  apply readsAs_of_plain (plain_encode fits)
  simp [decodeDrafts, encode, InventoryId.encode, Value.toTree, Value.entriesToTrees,
    Decoder.record, Decoder.slot, Decoder.entry, Json.Tree.isWhole, drafts, Except.map, bind,
    Except.bind, pure, Except.pure]

end Store.StoredLayout
end Mintmark
