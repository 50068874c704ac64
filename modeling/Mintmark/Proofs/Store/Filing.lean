import Mintmark.Proofs.Store.Isolation
import Mintmark.Proofs.Store.Ledger

/-!
# The store in a folder keeps a ledger

Each drawer holds documents of one sort, and whatever the operations do to a drawer leaves the
documents of the other as they were. As long as different ids have different stems, a document
that is written stays until its own inventory replaces or removes it, and it is read back as what it
was made from.
-/

namespace Mintmark.Store.Folder

open Json (Value Decoder)

/-- A drawer with documents of one sort, all of which can be read back. -/
structure Filing (α : Type) where
  drawer : Drawer
  encode : α → Value
  decode : Decoder α
  Good : α → Prop
  read_back : ∀ a, Good a → decodeBytes decode (encode a).prettyText.toUTF8 = .ok a
  nonempty : ∀ a, (encode a).prettyText.toUTF8.isEmpty = false

namespace Filing

def counters : Filing Counter where
  drawer := .sequences
  encode := Counter.encode
  decode := Counter.decode
  Good := Counter.Regular
  read_back _ good := Counter.decodeBytes_document good.timed
  nonempty := Counter.document_nonempty

def layouts : Filing StoredLayout where
  drawer := .configs
  encode := StoredLayout.encode
  decode := StoredLayout.decode
  Good stored := stored.layout.Fits
  read_back _ := StoredLayout.decodeBytes_document
  nonempty := StoredLayout.document_nonempty

def document {α : Type} (k : Filing α) (a : α) : ByteArray := (k.encode a).prettyText.toUTF8

end Filing

/-- The bytes of the document of an inventory. -/
def document? (f : Folder) (drawer : Drawer) (d : Disk) (id : InventoryId) : Option ByteArray :=
  content? f drawer d (FileName.dataFile id.text)

/-- The stems of the ids in use tell them apart. -/
def Told (Used : InventoryId → Prop) : Prop :=
  ∀ {a b}, Used a → Used b → FileName.stem a.text = FileName.stem b.text → a = b

theorem told_of_apart {Used : InventoryId → Prop}
    (apart : ∀ a b, Used a → Used b → a ≠ b → FileName.Apart a.text b.text) : Told Used := by
  intro a b usedA usedB same
  by_contra ne
  exact FileName.stem_ne_of_apart (apart a b usedA usedB ne) same

/-- The drawer holds the documents of these entries, as far as they belong to ids in use. -/
structure Holds {α : Type} (f : Folder) (k : Filing α) (Used : InventoryId → Prop) (d : Disk)
    (entries : InventoryId → Option α) : Prop where
  stands : Stands f k.drawer d
  documents : ∀ id, Used id → document? f k.drawer d id = (entries id).map k.document
  good : ∀ id, ∀ a ∈ entries id, k.Good a

namespace Holds

variable {α : Type} {f : Folder} {k : Filing α} {Used : InventoryId → Prop} {d d' : Disk}
  {entries : InventoryId → Option α} {id : InventoryId}

theorem of_vacant (vacant : Vacant f k.drawer d) : Holds f k Used d fun _ => none := by
  constructor
  · exact vacant.stands
  · intro id _
    rw [document?, content?, vacant.nothing]
    rfl
  · intro id a member
    cases member

theorem load (holds : Holds f k Used d entries) (used : Used id) :
    f.load k.decode k.drawer id d = .ok (entries id) := by
  have document := holds.documents id used
  cases here : entries id with
  | none =>
    rw [here] at document
    exact load_missing holds.stands k.decode document
  | some a =>
    rw [here] at document
    exact load_written holds.stands document (k.nonempty a) (k.read_back a (holds.good id a here))

/-- Files that are no documents do not count. -/
theorem of_same (holds : Holds f k Used d entries) (stands : Stands f k.drawer d')
    (same : ∀ id, document? f k.drawer d' id = document? f k.drawer d id) :
    Holds f k Used d' entries := by
  constructor
  · exact stands
  · intro id used
    rw [same, holds.documents id used]
  · exact holds.good

theorem update (holds : Holds f k Used d entries) (told : Told Used) (used : Used id) {a? : Option α}
    (good : ∀ a ∈ a?, k.Good a) (stands : Stands f k.drawer d')
    (replaced : ∀ other, document? f k.drawer d' other =
      if FileName.stem other.text = FileName.stem id.text then a?.map k.document
      else document? f k.drawer d other) :
    Holds f k Used d' (Function.update entries id a?) := by
  constructor
  · exact stands
  · intro other used'
    rw [replaced, Function.update_apply]
    by_cases same : other = id
    · rw [if_pos same, if_pos (by rw [same])]
    · rw [if_neg same, if_neg fun stems => same (told used' used stems), holds.documents other used']
  · intro other a member
    rw [Function.update_apply] at member
    split at member
    · exact good a member
    · exact holds.good other a member

theorem lock (holds : Holds f k Used d entries) (id : InventoryId) :
    ∃ d', f.lock k.drawer id d = (.ok (), d') ∧ Holds f k Used d' entries := by
  obtain ⟨d', touched, becomes⟩ := touch_becomes holds.stands (FileName.lockFile id.text)
  refine ⟨d', ?_, holds.of_same (becomes.stands holds.stands) fun other => ?_⟩
  · rw [Folder.lock, lockPath, touched]
  · rw [document?, becomes.content?_eq, setContent, if_neg (FileName.dataFile_ne_lockFile _ _),
      document?]

theorem replace (holds : Holds f k Used d entries) (told : Told Used) (used : Used id) {a : α}
    (good : k.Good a) :
    ∃ d', f.replace k.drawer id (k.encode a) d = (.ok (), d') ∧
      Holds f k Used d' (Function.update entries id (some a)) := by
  obtain ⟨written, wrote, draft⟩ :=
    write_becomes holds.stands (FileName.tempFile id.text) (k.document a)
  have stands := draft.stands holds.stands
  have here : content? f k.drawer written (FileName.tempFile id.text) = some (k.document a) := by
    rw [draft.content?_eq, setContent, if_pos rfl]
  obtain ⟨d', moved, final⟩ := rename_becomes stands (FileName.dataFile id.text) here
  refine ⟨d', ?_, ?_⟩
  · have first : f.writeTemp k.drawer id (k.encode a) d = (.ok (), written) := by
      rw [writeTemp, tempPath, ← Filing.document, wrote]
    rw [Folder.replace, andThen, first]
    dsimp only
    rw [publish, tempPath, dataPath, moved]
  · apply holds.update told used
    · intro b member
      cases member
      exact good
    · exact final.stands stands
    · intro other
      have temp := FileName.dataFile_ne_tempFile other.text id.text
      simp only [document?, final.content?_eq, draft.content?_eq, setContent, if_neg temp,
        FileName.dataFile_inj]
      rfl

theorem remove (holds : Holds f k Used d entries) (told : Told Used) (used : Used id) :
    ∃ d', removing (f.dataPath k.drawer id) d = (.ok (entries id).isSome, d') ∧
      Holds f k Used d' (Function.update entries id none) := by
  have document := holds.documents id used
  cases here : entries id with
  | none =>
    rw [here] at document
    refine ⟨d, ?_, ?_⟩
    · rw [removing, Disk.remove, dataPath, lookup_eq holds.stands, ← document?, document]
      rfl
    · rwa [← here, Function.update_eq_self]
  | some a =>
    rw [here] at document
    obtain ⟨d', removed, becomes⟩ := remove_becomes holds.stands document
    refine ⟨d', ?_, holds.update told used (by simp) (becomes.stands holds.stands) fun other => ?_⟩
    · rw [removing, dataPath, removed]
      rfl
    · simp only [document?, becomes.content?_eq, setContent, FileName.dataFile_inj]
      rfl

/-- What is done in one drawer does not matter to the other. -/
theorem elsewhere (holds : Holds f k Used d entries) {β : Type} {drawer : Drawer}
    {c : Disk → β × Disk} (keeps : Keeps (OwnsIn f drawer id) c) (ne : k.drawer ≠ drawer) :
    Holds f k Used (c d).2 entries := by
  have same (file : String) :
      (c d).2.node? (f.path k.drawer file) = d.node? (f.path k.drawer file) := by
    refine (keeps d _ ?_).symm
    rintro ⟨other, -, eq⟩
    exact ne (path_inj_drawer eq).1
  apply holds.of_same
  · constructor
    · intro a way
      rw [← keeps d a]
      · exact holds.stands.folders a way
      · rintro ⟨file, -, rfl⟩
        exact path_not_mem_ancestors f drawer k.drawer file "" way
    · intro file
      rw [same]
      exact holds.stands.files file
  · intro other
    rw [document?, document?, content?, content?, same]

end Holds

section

variable {f : Folder} {Used : InventoryId → Prop}

theorem keepsShelf (told : Told Used) :
    KeepsShelf f.backend Used fun d shelf => Holds f .layouts Used d shelf where
  allocate id start now holds := holds.elsewhere (keeps_allocate f id start now) (by decide)
  peek _ _ holds := holds
  counter _ holds := holds
  save := by
    intro d shelf stored used fits holds
    obtain ⟨locked, taken, holds⟩ := holds.lock stored.inventory
    obtain ⟨d', replaced, holds⟩ := holds.replace told used fits
    have saved : f.backend.save stored d = (.ok (), d') := by
      simp only [backend, andThen]
      rw [show f.lock .configs stored.inventory d = _ from taken]
      exact replaced
    rw [saved]
    exact ⟨rfl, holds⟩
  load _ holds := ⟨holds.load, holds⟩
  remove := by
    intro d shelf id used holds
    obtain ⟨locked, taken, holds⟩ := holds.lock id
    obtain ⟨d', removed, holds⟩ := holds.remove told used
    have removed : f.backend.remove id d = (.ok (shelf id).isSome, d') := by
      simp only [backend, removeLayout, andThen]
      rw [show f.lock .configs id d = _ from taken]
      exact removed
    rw [removed]
    exact ⟨rfl, holds⟩

/-- The drawer of counters shows these counts. -/
def ShowsCounts (f : Folder) (Used : InventoryId → Prop) (d : Disk) (counts : Counts) : Prop :=
  ∃ entries : InventoryId → Option Counter, Holds f .counters Used d entries ∧
    ∀ id, (entries id).map Counter.timeless = counts id

theorem allocate_holds (told : Told Used) {d : Disk} {entries : InventoryId → Option Counter}
    {id : InventoryId} {now : Int} (fits : Number.fits64 now = true) (used : Used id)
    (holds : Holds f .counters Used d entries) (start : UInt64) :
    match ((entries id).getD (.fresh id start now)).advance? now with
    | some (value, counter) => (f.allocate id start now d).1 = .ok value ∧
      Holds f .counters Used (f.allocate id start now d).2
        (Function.update entries id (some counter))
    | none => (f.allocate id start now d).1 = .error (.overflow id.text) ∧
      Holds f .counters Used (f.allocate id start now d).2 entries := by
  obtain ⟨locked, taken, holds⟩ := holds.lock id
  have found : f.load Counter.decode .sequences id locked = .ok (entries id) := holds.load used
  have going : f.allocate id start now d = f.taking id start now (.ok (entries id)) locked := by
    rw [allocate_eq, andThen, show f.lock .sequences id d = _ from taken]
    dsimp only
    rw [found]
  rw [going]
  have regular := Counter.regular_getD fits (holds.good id) id start
  simp only [taking]
  cases advanced : ((entries id).getD (.fresh id start now)).advance? now with
  | none =>
    have full := regular.counted.advance?_eq_none_iff.mp advanced
    rw [Counter.advance_eq_full_iff.mpr full]
    exact ⟨rfl, holds⟩
  | some pair =>
    obtain ⟨value, counter⟩ := pair
    rw [Counter.advance?_eq_some_iff.mp advanced]
    obtain ⟨d', replaced, holds⟩ := holds.replace told used (regular.of_advance? fits advanced)
    dsimp only [andThen]
    rw [show f.replace .sequences id counter.encode locked = _ from replaced]
    exact ⟨rfl, holds⟩

theorem keepsCounts (told : Told Used) :
    KeepsCounts f.backend Used (fun _ _ _ now => Number.fits64 now = true) (ShowsCounts f Used) where
  save := by
    rintro d counts stored ⟨entries, holds, shown⟩
    exact ⟨entries, holds.elsewhere (keeps_save f stored) (by decide), shown⟩
  load _ shows := shows
  remove := by
    rintro d counts id ⟨entries, holds, shown⟩
    exact ⟨entries, holds.elsewhere (keeps_removeLayout f id) (by decide), shown⟩
  allocate := by
    rintro d counts id start now used fits ⟨entries, holds, shown⟩
    have after := allocate_holds told fits used holds start
    have taking := Counts.take?_eq (shown id) start now
    rw [Counts.taken, Counts.afterTaking, taking]
    cases advanced : ((entries id).getD (.fresh id start now)).advance? now with
    | none =>
      rw [advanced] at after
      exact ⟨after.1, entries, after.2, shown⟩
    | some pair =>
      rw [advanced] at after
      refine ⟨after.1, _, after.2, fun other => ?_⟩
      rw [Function.update_apply]
      dsimp only [Option.map_some]
      rw [Function.update_apply]
      split
      · rfl
      · exact shown other
  peek := by
    rintro d counts id start used ⟨entries, holds, shown⟩
    refine ⟨?_, entries, holds, shown⟩
    change (f.peek id start d) = _
    rw [Folder.peek, show f.load Counter.decode .sequences id d = _ from holds.load used, ← shown id,
      Option.map_map]
    rfl
  counter := by
    rintro d counts id used ⟨entries, holds, shown⟩
    refine ⟨?_, entries, holds, shown⟩
    change (f.load Counter.decode .sequences id d).map _ = _
    rw [show f.load Counter.decode .sequences id d = _ from holds.load used, ← shown id]
    rfl

end

end Mintmark.Store.Folder
