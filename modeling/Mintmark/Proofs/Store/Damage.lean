import Mintmark.Proofs.Store.Filing
import Mintmark.Proofs.Store.Turns

/-!
# Damaged documents

A counter starts afresh only where it has no document. What the bytes of a document are makes no
difference to this: if they decode, the counter goes on from what they say, and if they do not, or
if there are none, every operation on the counter reports that. A value that cannot be taken leaves
all documents as they were, for nothing but the lock file and the temporary file has been touched by
then. This holds of a taking that breaks off, too, as it does where a document says that no version
is left although values are.
-/

namespace Mintmark.Store.Folder

open Disk (Agree)

variable {f : Folder} {d : Disk} {id : InventoryId} {start value : UInt64} {c : Counter}

/-- The document of the counter can be read, and this is what it says. -/
def Records (f : Folder) (d : Disk) (id : InventoryId) (c : Counter) : Prop :=
  ∃ content, document? f .sequences d id = some content ∧ content.isEmpty = false ∧
    decodeBytes Counter.decode content = .ok c

/-- There is a document of the counter, but nothing is in it or what is in it does not decode. -/
def Damaged (f : Folder) (d : Disk) (id : InventoryId) : Prop :=
  ∃ content, document? f .sequences d id = some content ∧
    (content.isEmpty = true ∨ ∀ c, decodeBytes Counter.decode content ≠ .ok c)

/-- The document of the counter can be read, and its version cannot be counted up. -/
def Worn (f : Folder) (d : Disk) (id : InventoryId) : Prop :=
  ∃ c, Records f d id c ∧ c.version = Counter.maxValue

/-- The value that the counter of an inventory has to offer. -/
inductive Offers (f : Folder) (d : Disk) (id : InventoryId) (start : UInt64) : UInt64 → Prop
  | fresh (missing : document? f .sequences d id = none) : Offers f d id start start
  | next {c : Counter} (records : Records f d id c) : Offers f d id start c.next

section

variable {α β : Type} {P : Path → Prop}

/-- What a call leaves as it was if it fails. -/
def Spares (Q : Path → Prop) (c : Call Disk α) : Prop :=
  ∀ d error, (c d).1 = .error error → Agree (fun path => ¬ Q path) d (c d).2

theorem spares_attempt (Q : Path → Prop) (change : Disk → Except IoFault Disk) :
    Spares Q (attempt change) := by
  intro d error failed
  unfold attempt at failed ⊢
  cases made : change d with
  | error fault => exact fun _ _ => rfl
  | ok d' =>
    rw [made] at failed
    cases failed

theorem spares_andThen {Q : Path → Prop} {first : Call Disk α} {next : α → Call Disk β}
    (one : Keeps Q first) (two : ∀ a, Spares Q (next a)) : Spares Q (andThen first next) := by
  intro d error failed
  have before := one d
  unfold andThen at failed ⊢
  generalize first d = made at before failed
  obtain ⟨answer, e⟩ := made
  cases answer with
  | error error => exact before
  | ok a => exact before.trans (two a e error failed)

/-- An answer that is given in the end does not fail. -/
theorem spares_andThen_answer {Q : Path → Prop} {first : Call Disk α} (one : Spares Q first)
    (b : β) : Spares Q (andThen first fun _ d => (.ok b, d)) := by
  intro d error failed
  have before := one d
  unfold andThen at failed ⊢
  generalize first d = made at before failed
  obtain ⟨_ | a, e⟩ := made
  · exact before _ rfl
  · cases failed

end

/-- The files of an inventory that are no documents. -/
def Scratch (f : Folder) (id : InventoryId) (path : Path) : Prop :=
  path = f.lockPath .sequences id ∨ path = f.tempPath .sequences id

theorem spares_taking (f : Folder) (id : InventoryId) (start : UInt64) (now : Int)
    (read : Except StoreError (Option Counter)) :
    Spares (Scratch f id) (f.taking id start now read) := by
  rcases read with error | found
  · exact fun _ _ _ _ _ => rfl
  · simp only [taking]
    cases (found.getD (.fresh id start now)).advance now with
    | taken value counter =>
      have replacing : Spares (Scratch f id) (f.replace .sequences id counter.encode) :=
        spares_andThen (keeps_attempt (Disk.confined_write (.inr rfl) _)) fun _ =>
          spares_attempt _ _
      exact spares_andThen_answer replacing value
    | full => exact fun _ _ _ _ _ => rfl
    | halted midway => exact fun _ _ _ _ _ => rfl

theorem spares_allocate (f : Folder) (id : InventoryId) (start : UInt64) (now : Int) :
    Spares (Scratch f id) (f.allocate id start now) := by
  rw [allocate_eq]
  apply spares_andThen (keeps_attempt (Disk.confined_touch (.inl rfl)))
  exact fun _ d => spares_taking f id start now _ d

theorem not_scratch_dataPath (f : Folder) (id other : InventoryId) :
    ¬ Scratch f id (f.dataPath .sequences other) := by
  rintro (same | same)
  · exact FileName.dataFile_ne_lockFile _ _ (path_inj.mp same)
  · exact FileName.dataFile_ne_tempFile _ _ (path_inj.mp same)

/-- A value that is not taken changes no document, whatever the disk. -/
theorem document?_of_failed {now : Int} {error : StoreError}
    (failed : (f.allocate id start now d).1 = .error error) (other : InventoryId) :
    document? f .sequences (f.allocate id start now d).2 other =
      document? f .sequences d other := by
  have kept := spares_allocate f id start now d error failed (f.dataPath .sequences other)
    (not_scratch_dataPath f id other)
  rw [dataPath] at kept
  rw [document?, document?, content?, content?, kept]

/-- The document is missing, or it says something, or it is damaged. -/
theorem document_cases (f : Folder) (d : Disk) (id : InventoryId) :
    document? f .sequences d id = none ∨ (∃ c, Records f d id c) ∨ Damaged f d id := by
  cases here : document? f .sequences d id with
  | none => exact .inl rfl
  | some content =>
    right
    cases empty : content.isEmpty with
    | true => exact .inr ⟨content, here, .inl empty⟩
    | false =>
      cases decoded : decodeBytes Counter.decode content with
      | ok c => exact .inl ⟨c, content, here, empty, decoded⟩
      | error error =>
        refine .inr ⟨content, here, .inr fun c records => ?_⟩
        rw [decoded] at records
        cases records

theorem Records.unique {c' : Counter} (records : Records f d id c) (records' : Records f d id c') :
    c = c' := by
  obtain ⟨content, here, -, decoded⟩ := records
  obtain ⟨content', here', -, decoded'⟩ := records'
  cases here.symm.trans here'
  exact Except.ok.inj (decoded.symm.trans decoded')

theorem Records.offers_iff (records : Records f d id c) :
    Offers f d id start value ↔ value = c.next := by
  constructor
  · rintro (missing | records')
    · obtain ⟨content, here, -⟩ := records
      cases missing.symm.trans here
    · rw [records.unique records']
  · rintro rfl
    exact .next records

theorem Damaged.not_missing (damaged : Damaged f d id) : document? f .sequences d id ≠ none := by
  obtain ⟨content, here, -⟩ := damaged
  rw [here]
  exact Option.some_ne_none content

theorem Damaged.not_records (damaged : Damaged f d id) : ¬ Records f d id c := by
  rintro ⟨content, here, filled, decoded⟩
  obtain ⟨content', here', empty | undecoded⟩ := damaged <;> cases here.symm.trans here'
  · exact absurd empty (by rw [filled]; exact Bool.false_ne_true)
  · exact undecoded c decoded

/-- Bytes that do not decode are a fault of the document and of nothing else. -/
theorem serialization_of_decodeBytes {α : Type} {decode : Json.Decoder α} {content : ByteArray}
    {error : StoreError} (failed : decodeBytes decode content = .error error) :
    ∃ reason, error = .serialization reason := by
  unfold decodeBytes at failed
  cases decoded : Json.Decoder.ofBytes decode content with
  | ok a =>
    rw [decoded] at failed
    cases failed
  | error fault =>
    rw [decoded] at failed
    cases fault <;> cases failed <;> exact ⟨_, rfl⟩

section

variable (stands : Stands f .sequences d)
include stands

theorem load_of_records (records : Records f d id c) :
    f.load Counter.decode .sequences id d = .ok (some c) := by
  obtain ⟨content, here, filled, decoded⟩ := records
  exact load_written stands here filled decoded

theorem load_of_damaged (damaged : Damaged f d id) :
    ∃ reason, f.load Counter.decode .sequences id d = .error (.serialization reason) := by
  obtain ⟨content, here, wrong⟩ := damaged
  rw [document?] at here
  rw [load, dataPath, read_eq stands, here]
  cases empty : content.isEmpty with
  | true => exact ⟨_, if_pos empty⟩
  | false =>
    have undecoded := wrong.resolve_left (by rw [empty]; exact Bool.false_ne_true)
    cases decoded : decodeBytes Counter.decode content with
    | ok c => exact absurd decoded (undecoded c)
    | error error =>
      obtain ⟨reason, rfl⟩ := serialization_of_decodeBytes decoded
      refine ⟨reason, ?_⟩
      simp only [empty, decoded]
      rfl

theorem load_cases (id : InventoryId) :
    (document? f .sequences d id = none ∧ f.load Counter.decode .sequences id d = .ok none) ∨
    (∃ c, Records f d id c ∧ f.load Counter.decode .sequences id d = .ok (some c)) ∨
    ∃ reason, f.load Counter.decode .sequences id d = .error (.serialization reason) := by
  rcases document_cases f d id with missing | ⟨c, records⟩ | damaged
  · exact .inl ⟨missing, load_missing stands Counter.decode missing⟩
  · exact .inr (.inl ⟨c, records, load_of_records stands records⟩)
  · exact .inr (.inr (load_of_damaged stands damaged))

theorem load_eq_ok_none_iff :
    f.load Counter.decode .sequences id d = .ok none ↔ document? f .sequences d id = none := by
  refine ⟨fun loaded => ?_, load_missing stands Counter.decode⟩
  rcases load_cases stands id with ⟨missing, -⟩ | ⟨c, -, found⟩ | ⟨reason, failed⟩
  · exact missing
  · cases loaded.symm.trans found
  · cases loaded.symm.trans failed

theorem load_eq_ok_some_iff :
    f.load Counter.decode .sequences id d = .ok (some c) ↔ Records f d id c := by
  refine ⟨fun loaded => ?_, load_of_records stands⟩
  rcases load_cases stands id with ⟨-, missing⟩ | ⟨c', records, found⟩ | ⟨reason, failed⟩
  · cases loaded.symm.trans missing
  · cases loaded.symm.trans found
    exact records
  · cases loaded.symm.trans failed

theorem serialization_of_load {error : StoreError}
    (failed : f.load Counter.decode .sequences id d = .error error) :
    ∃ reason, error = .serialization reason := by
  rcases load_cases stands id with ⟨-, missing⟩ | ⟨c, -, found⟩ | ⟨reason, reported⟩
  · cases failed.symm.trans missing
  · cases failed.symm.trans found
  · cases failed.symm.trans reported
    exact ⟨reason, rfl⟩

theorem offers_iff :
    Offers f d id start value ↔ ∃ found, f.load Counter.decode .sequences id d = .ok found ∧
      (found.map (·.next)).getD start = value := by
  constructor
  · rintro (missing | records)
    · exact ⟨none, (load_eq_ok_none_iff stands).mpr missing, rfl⟩
    · exact ⟨some _, (load_eq_ok_some_iff stands).mpr records, rfl⟩
  · rintro ⟨_ | c, loaded, rfl⟩
    · exact .fresh ((load_eq_ok_none_iff stands).mp loaded)
    · exact .next ((load_eq_ok_some_iff stands).mp loaded)

theorem offers_iff_of_load {found : Option Counter} (now : Int)
    (loaded : f.load Counter.decode .sequences id d = .ok found) :
    Offers f d id start value ↔ (found.getD (.fresh id start now)).next = value := by
  rw [offers_iff stands, loaded]
  cases found <;> simp [Counter.fresh]

theorem worn_iff_of_load {found : Option Counter} (start : UInt64) (now : Int)
    (loaded : f.load Counter.decode .sequences id d = .ok found) :
    Worn f d id ↔ (found.getD (.fresh id start now)).version = Counter.maxValue := by
  simp only [Worn, ← load_eq_ok_some_iff stands, loaded]
  cases found <;> simp [Counter.fresh, Counter.maxValue]

/-- Taking a value reads the document as it stood before, and is then kept from it only by a counter
that is full or breaks off. -/
theorem allocate_fst (id : InventoryId) (start : UInt64) (now : Int) :
    (f.allocate id start now d).1 = (f.load Counter.decode .sequences id d).bind fun found =>
      match (found.getD (.fresh id start now)).advance now with
      | .taken value _ => .ok value
      | .full => .error (.overflow id.text)
      | .halted _ => .error .halted := by
  obtain ⟨locked, taken, stands', data, -⟩ := Processes.lock_effect stands id
  have same : f.load Counter.decode .sequences id locked =
      f.load Counter.decode .sequences id d := by
    have here : content? f .sequences locked (FileName.dataFile id.text) =
        content? f .sequences d (FileName.dataFile id.text) := congrFun data id
    rw [load, load, dataPath, read_eq stands', read_eq stands, here]
  rw [allocate_eq, andThen, taken]
  dsimp only
  rw [same]
  rcases f.load Counter.decode .sequences id d with error | found
  · rfl
  · simp only [taking, Except.bind]
    cases (found.getD (.fresh id start now)).advance now with
    | taken value counter =>
      obtain ⟨written, wrote, stands'', -, temp⟩ := Processes.write_effect stands' id
        counter.document
      have draft := (temp id).trans (if_pos rfl)
      obtain ⟨final, published, -⟩ := Processes.publish_effect stands'' draft
      dsimp only
      rw [andThen, replace, andThen, writeTemp, ← Counter.document, wrote]
      dsimp only
      rw [published]
    | full => rfl
    | halted midway => rfl

theorem allocate_eq_ok_iff (id : InventoryId) (start value : UInt64) (now : Int) :
    (f.allocate id start now d).1 = .ok value ↔
      Offers f d id start value ∧ value ≠ Counter.maxValue ∧ ¬ Worn f d id := by
  rw [allocate_fst stands]
  cases loaded : f.load Counter.decode .sequences id d with
  | error error => simp [Except.bind, offers_iff stands, loaded]
  | ok found =>
    rw [offers_iff_of_load stands now loaded, worn_iff_of_load stands start now loaded]
    simp only [Except.bind, Counter.advance]
    split_ifs with full worn
    · simp only [false_iff]
      rintro ⟨rfl, room, -⟩
      exact room full
    · simp [worn]
    · simp only [Except.ok.injEq, worn, not_false_eq_true, and_true]
      exact ⟨fun same => ⟨same, same ▸ full⟩, And.left⟩

theorem allocate_eq_overflow_iff (id : InventoryId) (start : UInt64) (now : Int) :
    (f.allocate id start now d).1 = .error (.overflow id.text) ↔
      Offers f d id start Counter.maxValue := by
  rw [allocate_fst stands]
  cases loaded : f.load Counter.decode .sequences id d with
  | error error =>
    obtain ⟨reason, rfl⟩ := serialization_of_load stands loaded
    simp [Except.bind, offers_iff stands, loaded]
  | ok found =>
    rw [offers_iff_of_load stands now loaded]
    simp only [Except.bind, Counter.advance]
    split_ifs with full worn <;> simp [full]

theorem allocate_eq_halted_iff (id : InventoryId) (start : UInt64) (now : Int) :
    (f.allocate id start now d).1 = .error .halted ↔
      Worn f d id ∧ ¬ Offers f d id start Counter.maxValue := by
  rw [allocate_fst stands]
  cases loaded : f.load Counter.decode .sequences id d with
  | error error =>
    obtain ⟨reason, rfl⟩ := serialization_of_load stands loaded
    simp [Except.bind, Worn, ← load_eq_ok_some_iff stands, loaded]
  | ok found =>
    rw [offers_iff_of_load stands now loaded, worn_iff_of_load stands start now loaded]
    simp only [Except.bind, Counter.advance]
    split_ifs with full worn
    · simp [full]
    · simp [full, worn]
    · simp [worn]

theorem peek_eq_ok_iff (id : InventoryId) (start value : UInt64) :
    f.peek id start d = .ok value ↔ Offers f d id start value := by
  rw [offers_iff stands, peek]
  rcases f.load Counter.decode .sequences id d with error | found
  · simp [Except.map]
  · simp [Except.map]

end

/-- Whatever bytes are in the files of the drawer: a counter is fresh only if it has no document,
and all that is taken or shown otherwise is what its document says. If the document is damaged then
taking a value, showing it and showing the counter all report a bad document. If no value is left
then taking one is refused, and if the version alone is at its end it breaks off. If taking a value
fails in any way all documents stay as they were. -/
theorem damaged_counters_never_restart (stands : Stands f .sequences d) (id : InventoryId)
    (start : UInt64) (now : Int) :
    (∀ value, (f.backend.allocate id start now d).1 = .ok value ↔
      Offers f d id start value ∧ value ≠ Counter.maxValue ∧ ¬ Worn f d id) ∧
    (∀ value, (f.backend.peek id start d).1 = .ok value ↔ Offers f d id start value) ∧
    (∀ c, (f.backend.counter id d).1 = .ok (some c) ↔ Records f d id c) ∧
    ((f.backend.counter id d).1 = .ok none ↔ document? f .sequences d id = none) ∧
    (Damaged f d id → ∃ reason,
      (f.backend.allocate id start now d).1 = .error (.serialization reason) ∧
      (f.backend.peek id start d).1 = .error (.serialization reason) ∧
      (f.backend.counter id d).1 = .error (.serialization reason)) ∧
    ((f.backend.allocate id start now d).1 = .error (.overflow id.text) ↔
      Offers f d id start Counter.maxValue) ∧
    ((f.backend.allocate id start now d).1 = .error .halted ↔
      Worn f d id ∧ ¬ Offers f d id start Counter.maxValue) ∧
    ∀ error, (f.backend.allocate id start now d).1 = .error error → ∀ other,
      document? f .sequences (f.backend.allocate id start now d).2 other =
        document? f .sequences d other := by
  refine ⟨fun value => allocate_eq_ok_iff stands id start value now,
    fun value => peek_eq_ok_iff stands id start value, fun c => load_eq_ok_some_iff stands,
    load_eq_ok_none_iff stands, fun damaged => ?_, allocate_eq_overflow_iff stands id start now,
    allocate_eq_halted_iff stands id start now, fun error => document?_of_failed⟩
  obtain ⟨reason, failed⟩ := load_of_damaged stands damaged
  refine ⟨reason, ?_, ?_, failed⟩
  · exact (allocate_fst stands id start now).trans (by rw [failed]; rfl)
  · change f.peek id start d = _
    rw [peek, failed]
    rfl

def yard : Folder := ⟨["srv", "yard"], "/srv/yard"⟩

def logs : InventoryId := ⟨"logs", by decide⟩

def planks : InventoryId := ⟨"planks", by decide⟩

/-- The yard as it was set up, but with some bytes for the document of the logs. -/
def logsHolding (content : ByteArray) : Disk :=
  (yard.prepare .empty).2.put (yard.dataPath .sequences logs) (.file content)

theorem becomes_logsHolding (content : ByteArray) :
    Stands yard .sequences (logsHolding content) ∧
      document? yard .sequences (logsHolding content) logs = some content ∧
      document? yard .sequences (logsHolding content) planks = none := by
  have vacant : Vacant yard .sequences (yard.prepare .empty).2 := vacant_of_prepare_empty rfl
  have becomes := becomes_put vacant.stands (FileName.dataFile logs.text) content
  have apart : FileName.Apart planks.text logs.text :=
    ⟨by decide, fun long => absurd long (FileName.not_long_of_utf8ByteSize_le (by decide))⟩
  have other := mt (FileName.dataFile_inj _ _).mp (FileName.stem_ne_of_apart apart)
  refine ⟨becomes.stands vacant.stands, ?_, ?_⟩
  · rw [document?]
    exact (congrFun becomes.content?_eq _).trans (if_pos rfl)
  · rw [document?]
    refine (congrFun becomes.content?_eq _).trans ((if_neg other).trans ?_)
    rw [content?, vacant.nothing]

/-- The beginning of a document. -/
def torn : ByteArray := "\x7b".toUTF8

/-- A document with one more entry, in whose text a byte belongs to no character. -/
def smudged : ByteArray :=
  "\x7b\"inventory_id\":\"logs\",\"next_value\":5,\"version\":4,\"note\":\"".toUTF8
    ++ ⟨#[0xFF]⟩ ++ "\",\"created_at\":1,\"updated_at\":2\x7d".toUTF8

/-- A counter whose version is at its end. -/
def worn : Counter := ⟨logs, 5, Counter.maxValue, 1, 2⟩

theorem damage_is_told_apart :
    Stands yard .sequences (logsHolding torn) ∧ Damaged yard (logsHolding torn) logs ∧
    (∃ reason,
      (yard.backend.allocate logs 1 0 (logsHolding torn)).1 = .error (.serialization reason) ∧
      (yard.backend.peek logs 1 (logsHolding torn)).1 = .error (.serialization reason) ∧
      (yard.backend.counter logs (logsHolding torn)).1 = .error (.serialization reason)) ∧
    (yard.backend.allocate planks 7 0 (logsHolding torn)).1 = .ok 7 ∧
    (yard.backend.allocate planks Counter.maxValue 0 (logsHolding torn)).1 =
      .error (.overflow "planks") ∧
    (yard.backend.allocate logs 1 0 (logsHolding smudged)).1 = .ok 5 ∧
    (yard.backend.allocate logs 1 0 (logsHolding worn.document)).1 = .error .halted := by
  obtain ⟨stands, here, missing⟩ := becomes_logsHolding torn
  have undecoded :
      decodeBytes Counter.decode torn = .error (.serialization "malformed document") := by
    decide +kernel
  have damaged : Damaged yard (logsHolding torn) logs := by
    refine ⟨_, here, .inr fun c decoded => ?_⟩
    cases undecoded.symm.trans decoded
  have reports := damaged_counters_never_restart stands logs 1 0
  have starts := damaged_counters_never_restart stands planks
  refine ⟨stands, damaged, reports.2.2.2.2.1 damaged, ?_, ?_, ?_, ?_⟩
  · refine ((starts 7 0).1 7).mpr ⟨.fresh missing, by decide, ?_⟩
    rintro ⟨c, ⟨content, here, -⟩, -⟩
    cases missing.symm.trans here
  · exact (starts Counter.maxValue 0).2.2.2.2.2.1.mpr (.fresh missing)
  · obtain ⟨stands, here, -⟩ := becomes_logsHolding smudged
    have records : Records yard (logsHolding smudged) logs ⟨logs, 5, 4, 1, 2⟩ :=
      ⟨smudged, here, by decide +kernel, by decide +kernel⟩
    have goesOn := damaged_counters_never_restart stands logs 1 0
    refine (goesOn.1 5).mpr ⟨.next records, by decide, ?_⟩
    rintro ⟨c, records', worn⟩
    cases records.unique records'
    exact absurd worn (by decide)
  · obtain ⟨stands, here, -⟩ := becomes_logsHolding worn.document
    have records : Records yard (logsHolding worn.document) logs worn :=
      ⟨_, here, worn.document_nonempty, Counter.decodeBytes_document ⟨rfl, rfl⟩⟩
    have breaksOff := damaged_counters_never_restart stands logs 1 0
    refine breaksOff.2.2.2.2.2.2.1.mpr ⟨⟨_, records, rfl⟩, fun full => ?_⟩
    exact absurd (records.offers_iff.mp full) (by decide)

end Mintmark.Store.Folder
