import Mintmark.Proofs.Store.Drawers
import Mintmark.Proofs.Store.Operations
import Mintmark.Proofs.Store.Stems

/-!
# Inventories in one folder do not meet

An operation on an inventory looks at the files of this inventory and at the way to them, and changes
nothing but these files. So disks that agree on what an inventory sees give the same answers about
it, and operations on others, which own other files, leave what it sees as it was. This holds on
every disk, also where the way is blocked or a folder stands in the place of a file.
-/

namespace Mintmark.Store

namespace Disk

variable {α β : Type} {P Q : Path → Prop} {d e : Disk} {path : Path}

/-- The disks have the same nodes at these paths. -/
def Agree (P : Path → Prop) (d e : Disk) : Prop := ∀ path, P path → d.node? path = e.node? path

/-- The path is among these paths, with the way to it. -/
structure Reaches (P : Path → Prop) (path : Path) : Prop where
  here : P path
  way : ∀ a ∈ ancestors path, P a

theorem Agree.lookup_eq (agree : Agree P d e) (reaches : Reaches P path) :
    d.lookup path = e.lookup path := by
  have clear : d.obstacle? path = e.obstacle? path := by
    have way := reaches.way
    unfold obstacle?
    generalize ancestors path = folders at way
    induction folders with
    | nil => rfl
    | cons a folders ih =>
      rw [List.forall_mem_cons] at way
      rw [List.findSome?_cons, List.findSome?_cons, agree a way.1, ih way.2]
  rw [lookup, lookup, clear, agree path reaches.here]

theorem Agree.read_eq (agree : Agree P d e) (reaches : Reaches P path) :
    d.read path = e.read path := by
  rw [read, read, agree.lookup_eq reaches]

theorem node?_put (d : Disk) (path : Path) (node : Node) (other : Path) :
    (d.put path node).node? other =
      if other = [] then some .folder else if other = path then some node else d.node? other := by
  simp only [node?, put, Table.find?_insert]
  split <;> rfl

theorem node?_erase (d : Disk) (path other : Path) :
    ({ d with nodes := d.nodes.erase path } : Disk).node? other =
      if other = [] then some .folder else if other = path then none else d.node? other := by
  simp only [node?, Table.find?_erase]
  split <;> rfl

theorem Agree.put (agree : Agree P d e) (path : Path) (node : Node) :
    Agree P (d.put path node) (e.put path node) := by
  intro other member
  rw [node?_put, node?_put, agree other member]

theorem Agree.erase (agree : Agree P d e) (path : Path) :
    Agree P { d with nodes := d.nodes.erase path } { e with nodes := e.nodes.erase path } := by
  intro other member
  rw [node?_erase, node?_erase, agree other member]

/-- What a change answers, and what it leaves at these paths, depends on these paths alone. -/
def Local (P : Path → Prop) (change : Disk → Except IoFault Disk) : Prop :=
  ∀ d e, Agree P d e →
    (∃ fault, change d = .error fault ∧ change e = .error fault) ∨
      ∃ d' e', change d = .ok d' ∧ change e = .ok e' ∧ Agree P d' e'

theorem local_touch (reaches : Reaches P path) : Local P (touch · path) := by
  intro d e agree
  simp only [touch, agree.lookup_eq reaches]
  rcases e.lookup path with fault | _ | content | _
  · exact .inl ⟨fault, rfl, rfl⟩
  · exact .inr ⟨_, _, rfl, rfl, agree.put path _⟩
  · exact .inr ⟨_, _, rfl, rfl, agree⟩
  · exact .inl ⟨.isFolder, rfl, rfl⟩

theorem local_write (reaches : Reaches P path) (content : ByteArray) :
    Local P (write · path content) := by
  intro d e agree
  simp only [write, agree.lookup_eq reaches]
  rcases e.lookup path with fault | _ | old | _
  · exact .inl ⟨fault, rfl, rfl⟩
  · exact .inr ⟨_, _, rfl, rfl, agree.put path _⟩
  · exact .inr ⟨_, _, rfl, rfl, agree.put path _⟩
  · exact .inl ⟨.isFolder, rfl, rfl⟩

theorem local_remove (reaches : Reaches P path) : Local P (remove · path) := by
  intro d e agree
  simp only [remove, agree.lookup_eq reaches]
  rcases e.lookup path with fault | _ | content | _
  · exact .inl ⟨fault, rfl, rfl⟩
  · exact .inl ⟨.notFound, rfl, rfl⟩
  · exact .inr ⟨_, _, rfl, rfl, agree.erase path⟩
  · exact .inl ⟨.isFolder, rfl, rfl⟩

theorem local_rename {source target : Path} (leaves : Reaches P source)
    (arrives : Reaches P target) :
    Local P (rename · source target) := by
  intro d e agree
  simp only [rename, agree.read_eq leaves, agree.lookup_eq arrives]
  rcases e.read source with fault | content
  · exact .inl ⟨fault, rfl, rfl⟩
  · have moved := (agree.erase source).put target (.file content)
    rcases e.lookup target with fault | _ | old | _
    · exact .inl ⟨fault, rfl, rfl⟩
    · exact .inr ⟨_, _, rfl, rfl, moved⟩
    · exact .inr ⟨_, _, rfl, rfl, moved⟩
    · exact .inl ⟨.isFolder, rfl, rfl⟩

/-- The change leaves everything as it was but at these paths. -/
def Confined (Q : Path → Prop) (change : Disk → Except IoFault Disk) : Prop :=
  ∀ d d', change d = .ok d' → Agree (fun path => ¬ Q path) d d'

theorem agree_put (named : Q path) (d : Disk) (node : Node) :
    Agree (fun path => ¬ Q path) d (d.put path node) := by
  intro other outside
  rw [node?_put]
  split
  · next root => rw [node?, if_pos root]
  · rw [if_neg]
    rintro rfl
    exact outside named

theorem agree_erase (named : Q path) (d : Disk) :
    Agree (fun path => ¬ Q path) d { d with nodes := d.nodes.erase path } := by
  intro other outside
  rw [node?_erase]
  split
  · next root => rw [node?, if_pos root]
  · rw [if_neg]
    rintro rfl
    exact outside named

theorem Agree.trans {d₁ d₂ d₃ : Disk} (first : Agree P d₁ d₂) (second : Agree P d₂ d₃) :
    Agree P d₁ d₃ := fun path member => (first path member).trans (second path member)

theorem confined_touch (named : Q path) : Confined Q (touch · path) := by
  intro d d' done
  simp only [touch] at done
  split at done <;> cases done
  · exact fun _ _ => rfl
  · exact agree_put named d _

theorem confined_write (named : Q path) (content : ByteArray) :
    Confined Q (write · path content) := by
  intro d d' done
  simp only [write] at done
  split at done <;> cases done
  exact agree_put named d _

theorem confined_remove (named : Q path) : Confined Q (remove · path) := by
  intro d d' done
  simp only [remove] at done
  split at done <;> cases done
  exact agree_erase named d

theorem confined_rename {source target : Path} (leaves : Q source) (arrives : Q target) :
    Confined Q (rename · source target) := by
  intro d d' done
  simp only [rename] at done
  split at done <;> cases done
  exact (agree_erase leaves d).trans (agree_put arrives _ _)

end Disk

namespace Folder

open Disk (Agree Reaches)

variable {α β : Type} {P Q : Path → Prop} {f : Folder} {drawer : Drawer} {id a b : InventoryId}

/-- What a call answers, and what it leaves at these paths, depends on these paths alone. -/
def Follows (P : Path → Prop) (c : Disk → α × Disk) : Prop :=
  ∀ d e, Agree P d e → (c d).1 = (c e).1 ∧ Agree P (c d).2 (c e).2

/-- The call leaves everything as it was but at these paths. -/
def Keeps (Q : Path → Prop) (c : Disk → α × Disk) : Prop :=
  ∀ d, Agree (fun path => ¬ Q path) d (c d).2

theorem follows_andThen {first : Call Disk α} {next : α → Call Disk β} (one : Follows P first)
    (two : ∀ a, Follows P (next a)) : Follows P (andThen first next) := by
  intro d e agree
  have after := one d e agree
  unfold andThen
  generalize first d = left, first e = right at after
  obtain ⟨answer, d⟩ := left
  obtain ⟨same, e⟩ := right
  obtain ⟨rfl, agree⟩ := after
  cases answer with
  | error error => exact ⟨rfl, agree⟩
  | ok a => exact two a d e agree

theorem keeps_andThen {first : Call Disk α} {next : α → Call Disk β} (one : Keeps Q first)
    (two : ∀ a, Keeps Q (next a)) : Keeps Q (andThen first next) := by
  intro d
  have before := one d
  unfold andThen
  generalize first d = made at before
  obtain ⟨answer, e⟩ := made
  cases answer with
  | error error => exact before
  | ok a => exact before.trans (two a e)

/-- Changes the disk, or reports the fault that keeps it from being changed. -/
def attempt (change : Disk → Except IoFault Disk) : Call Disk Unit := fun d =>
  match change d with
  | .ok d => (.ok (), d)
  | .error fault => (.error (io fault), d)

theorem follows_attempt {change : Disk → Except IoFault Disk} (depends : Disk.Local P change) :
    Follows P (attempt change) := by
  intro d e agree
  unfold attempt
  rcases depends d e agree with ⟨fault, left, right⟩ | ⟨d', e', left, right, agree'⟩
  · rw [left, right]
    exact ⟨rfl, agree⟩
  · rw [left, right]
    exact ⟨rfl, agree'⟩

theorem keeps_attempt {change : Disk → Except IoFault Disk} (confined : Disk.Confined Q change) :
    Keeps Q (attempt change) := by
  intro d
  unfold attempt
  cases made : change d with
  | error fault => exact fun _ _ => rfl
  | ok d' => exact confined d d' made

theorem follows_answer (answer : α) : Follows P fun d => (answer, d) :=
  fun _ _ agree => ⟨rfl, agree⟩

theorem keeps_answer (answer : α) : Keeps Q fun d => (answer, d) := fun _ _ _ => rfl

theorem load_eq_of_agree {decode : Json.Decoder α} {d e : Disk} (agree : Agree P d e)
    (reaches : Reaches P (f.dataPath drawer id)) :
    f.load decode drawer id d = f.load decode drawer id e := by
  rw [load, load, agree.read_eq reaches]

/-- What the operations on an inventory see: its files, and the way to the drawers. -/
def Sees (f : Folder) (id : InventoryId) (path : Path) : Prop :=
  ∃ drawer, path ∈ Disk.ancestors (f.path drawer "") ∨
    ∃ file ∈ FileName.files id.text, path = f.path drawer file

/-- The files of an inventory in a drawer. -/
def OwnsIn (f : Folder) (drawer : Drawer) (id : InventoryId) (path : Path) : Prop :=
  ∃ file ∈ FileName.files id.text, path = f.path drawer file

/-- What the operations on an inventory may change. -/
def Owns (f : Folder) (id : InventoryId) (path : Path) : Prop := ∃ drawer, OwnsIn f drawer id path

theorem reaches_of_mem_files {file : String} (member : file ∈ FileName.files id.text) :
    Reaches (Sees f id) (f.path drawer file) := by
  constructor
  · exact ⟨drawer, .inr ⟨file, member, rfl⟩⟩
  · intro a way
    rw [ancestors_path, ← ancestors_path f drawer ""] at way
    exact ⟨drawer, .inl way⟩

theorem owns_of_mem_files {file : String} (member : file ∈ FileName.files id.text) :
    OwnsIn f drawer id (f.path drawer file) := ⟨file, member, rfl⟩

theorem Keeps.widen {c : Disk → α × Disk} (keeps : Keeps (OwnsIn f drawer id) c) :
    Keeps (Owns f id) c := fun d path outside => keeps d path fun owned => outside ⟨drawer, owned⟩

theorem dataFile_mem (name : String) : FileName.dataFile name ∈ FileName.files name :=
  List.mem_cons_self

theorem lockFile_mem (name : String) : FileName.lockFile name ∈ FileName.files name :=
  List.mem_cons_of_mem _ List.mem_cons_self

theorem tempFile_mem (name : String) : FileName.tempFile name ∈ FileName.files name :=
  List.mem_cons_of_mem _ (List.mem_cons_of_mem _ List.mem_cons_self)

theorem path_inj_drawer {drawer drawer' : Drawer} {file other : String}
    (same : f.path drawer file = f.path drawer' other) : drawer = drawer' ∧ file = other := by
  rw [path, path, List.append_cancel_left_eq] at same
  obtain ⟨drawers, names⟩ := List.cons.inj same
  refine ⟨?_, (List.cons.inj names).1⟩
  cases drawer <;> cases drawer' <;> first | rfl | exact absurd drawers (by decide)

theorem not_owns_of_sees (apart : FileName.Apart a.text b.text) {path : Path}
    (seen : Sees f a path) : ¬ Owns f b path := by
  rintro ⟨drawer', other, member', rfl⟩
  obtain ⟨drawer, way | ⟨file, member, same⟩⟩ := seen
  · exact path_not_mem_ancestors f drawer' drawer other "" way
  · exact FileName.ne_of_mem_files apart member member' (path_inj_drawer same).2.symm

theorem follows_lock (f : Folder) (drawer : Drawer) (id : InventoryId) :
    Follows (Sees f id) (f.lock drawer id) :=
  follows_attempt (Disk.local_touch (reaches_of_mem_files (lockFile_mem id.text)))

theorem keeps_lock (f : Folder) (drawer : Drawer) (id : InventoryId) :
    Keeps (OwnsIn f drawer id) (f.lock drawer id) :=
  keeps_attempt (Disk.confined_touch (owns_of_mem_files (lockFile_mem id.text)))

theorem follows_replace (f : Folder) (drawer : Drawer) (id : InventoryId) (v : Json.Value) :
    Follows (Sees f id) (f.replace drawer id v) := by
  apply follows_andThen
  · exact follows_attempt (Disk.local_write (reaches_of_mem_files (tempFile_mem id.text)) _)
  · intro _
    exact follows_attempt (Disk.local_rename (reaches_of_mem_files (tempFile_mem id.text))
      (reaches_of_mem_files (dataFile_mem id.text)))

theorem keeps_replace (f : Folder) (drawer : Drawer) (id : InventoryId) (v : Json.Value) :
    Keeps (OwnsIn f drawer id) (f.replace drawer id v) := by
  apply keeps_andThen
  · exact keeps_attempt (Disk.confined_write (owns_of_mem_files (tempFile_mem id.text)) _)
  · intro _
    exact keeps_attempt (Disk.confined_rename (owns_of_mem_files (tempFile_mem id.text))
      (owns_of_mem_files (dataFile_mem id.text)))

/-- What taking a value goes on with when the document has been read. -/
def taking (f : Folder) (id : InventoryId) (start : UInt64) (now : Int) :
    Except StoreError (Option Counter) → Call Disk UInt64
  | .error error => fun d => (.error error, d)
  | .ok found =>
    match (found.getD (.fresh id start now)).advance now with
    | .taken value counter =>
      andThen (f.replace .sequences id counter.encode) fun _ d => (.ok value, d)
    | .full => fun d => (.error (.overflow id.text), d)
    | .halted _ => fun d => (.error .halted, d)

theorem allocate_eq (f : Folder) (id : InventoryId) (start : UInt64) (now : Int) :
    f.allocate id start now = andThen (f.lock .sequences id) fun _ d =>
      f.taking id start now (f.load Counter.decode .sequences id d) d := by
  rw [allocate]
  congr
  funext _ d
  rcases f.load Counter.decode .sequences id d with error | found
  · rfl
  · simp only [taking]
    cases (found.getD (.fresh id start now)).advance now <;> rfl

theorem follows_taking (f : Folder) (id : InventoryId) (start : UInt64) (now : Int)
    (read : Except StoreError (Option Counter)) :
    Follows (Sees f id) (f.taking id start now read) := by
  rcases read with error | found
  · exact follows_answer _
  · simp only [taking]
    cases (found.getD (.fresh id start now)).advance now with
    | taken value counter =>
      exact follows_andThen (follows_replace f .sequences id counter.encode) fun _ =>
        follows_answer _
    | full | halted => exact follows_answer _

theorem keeps_taking (f : Folder) (id : InventoryId) (start : UInt64) (now : Int)
    (read : Except StoreError (Option Counter)) :
    Keeps (OwnsIn f .sequences id) (f.taking id start now read) := by
  rcases read with error | found
  · exact keeps_answer _
  · simp only [taking]
    cases (found.getD (.fresh id start now)).advance now with
    | taken value counter =>
      exact keeps_andThen (keeps_replace f .sequences id counter.encode) fun _ => keeps_answer _
    | full | halted => exact keeps_answer _

theorem follows_allocate (f : Folder) (id : InventoryId) (start : UInt64) (now : Int) :
    Follows (Sees f id) (f.allocate id start now) := by
  rw [allocate_eq]
  apply follows_andThen (follows_lock f .sequences id)
  intro _ d e agree
  dsimp only
  rw [load_eq_of_agree agree (reaches_of_mem_files (dataFile_mem id.text))]
  exact follows_taking f id start now _ d e agree

theorem keeps_allocate (f : Folder) (id : InventoryId) (start : UInt64) (now : Int) :
    Keeps (OwnsIn f .sequences id) (f.allocate id start now) := by
  rw [allocate_eq]
  exact keeps_andThen (keeps_lock f .sequences id) fun _ d => keeps_taking f id start now _ d

/-- Removes a file and says whether it was there. -/
def removing (path : Path) : Call Disk Bool := fun d =>
  match d.remove path with
  | .ok d => (.ok true, d)
  | .error .notFound => (.ok false, d)
  | .error fault => (.error (io fault), d)

theorem follows_removing {path : Path} (reaches : Reaches P path) : Follows P (removing path) := by
  intro d e agree
  unfold removing
  rcases Disk.local_remove reaches d e agree with
    ⟨fault, left, right⟩ | ⟨d', e', left, right, agree'⟩ <;> dsimp only at left right
  · rw [left, right]
    cases fault <;> exact ⟨rfl, agree⟩
  · rw [left, right]
    exact ⟨rfl, agree'⟩

theorem keeps_removing {path : Path} (named : Q path) : Keeps Q (removing path) := by
  intro d
  unfold removing
  cases removed : d.remove path with
  | error fault => cases fault <;> exact fun _ _ => rfl
  | ok d' => exact Disk.confined_remove named d d' removed

theorem keeps_save (f : Folder) (stored : StoredLayout) :
    Keeps (OwnsIn f .configs stored.inventory) (f.backend.save stored) := by
  apply keeps_andThen (keeps_lock f .configs stored.inventory)
  exact fun _ => keeps_replace f .configs stored.inventory stored.encode

theorem follows_removeLayout (f : Folder) (id : InventoryId) :
    Follows (Sees f id) (f.removeLayout id) :=
  follows_andThen (follows_lock f .configs id) fun _ =>
    follows_removing (reaches_of_mem_files (dataFile_mem id.text))

theorem keeps_removeLayout (f : Folder) (id : InventoryId) :
    Keeps (OwnsIn f .configs id) (f.removeLayout id) :=
  keeps_andThen (keeps_lock f .configs id) fun _ =>
    keeps_removing (owns_of_mem_files (dataFile_mem id.text))

theorem follows_map {c : Disk → α × Disk} (g : α → β) (follows : Follows P c) :
    Follows P (Prod.map g (fun d => d) ∘ c) := by
  intro d e agree
  obtain ⟨same, agree⟩ := follows d e agree
  exact ⟨congrArg g same, agree⟩

theorem follows_load (f : Folder) (decode : Json.Decoder α) (drawer : Drawer) (id : InventoryId) :
    Follows (Sees f id) fun d => (f.load decode drawer id d, d) := by
  intro d e agree
  exact ⟨load_eq_of_agree agree (reaches_of_mem_files (dataFile_mem id.text)), agree⟩

/-- An operation answers by what its inventory sees. -/
theorem follows_perform (f : Folder) (op : Operation) :
    Follows (Sees f op.id) (f.backend.perform op) := by
  cases op with
  | allocate id start now => exact follows_map _ (follows_allocate f id start now)
  | peek id start =>
    exact follows_map (fun found => Answer.value (found.map fun found =>
      (found.map (·.next)).getD start)) (follows_load f Counter.decode .sequences id)
  | counter id => exact follows_map _ (follows_load f Counter.decode .sequences id)
  | save stored =>
    apply follows_map
    apply follows_andThen (follows_lock f .configs stored.inventory)
    exact fun _ => follows_replace f .configs stored.inventory stored.encode
  | load id => exact follows_map _ (follows_load f StoredLayout.decode .configs id)
  | remove id => exact follows_map _ (follows_removeLayout f id)

/-- An operation changes nothing but the files of its inventory. -/
theorem keeps_perform (f : Folder) (op : Operation) :
    Keeps (Owns f op.id) (f.backend.perform op) := by
  cases op with
  | allocate id start now => exact (keeps_allocate f id start now).widen
  | save stored => exact (keeps_save f stored).widen
  | remove id => exact (keeps_removeLayout f id).widen
  | peek | counter | load => exact fun _ _ _ => rfl

/-- Disks on which an inventory sees the same answer its operations alike, whatever is done about
others in between on one of them. -/
theorem answersOn_eq_of_agree {ops : List Operation}
    (apart : ∀ op ∈ ops, op.id = a ∨ FileName.Apart a.text op.id.text) {d e : Disk}
    (agree : Agree (Sees f a) d e) :
    f.backend.answersOn a ops d = f.backend.answers (ops.filter (·.id = a)) e := by
  induction ops generalizing d e with
  | nil => rfl
  | cons op ops ih =>
    rw [List.forall_mem_cons] at apart
    rw [Backend.answersOn_cons]
    by_cases own : op.id = a
    · obtain ⟨same, agree⟩ := own ▸ follows_perform f op d e (own ▸ agree)
      rw [if_pos own, List.filter_cons_of_pos (by simpa using own), Backend.answers, same,
        ih apart.2 agree]
    · rw [if_neg own, List.filter_cons_of_neg (by simpa using own)]
      apply ih apart.2
      intro path seen
      have other := apart.1.resolve_left own
      rw [← agree path seen]
      exact (keeps_perform f op d path (not_owns_of_sees other seen)).symm

/-- Every inventory has files of its own, with names that are as good as they have to be; its
operations read and change no others, so that whatever is done about other inventories, on whatever
disk, they answer as if it were alone. The GUIDs of two ids count only if both ids are too long to be
written out. -/
theorem inventories_never_meet (f : Folder) (a : InventoryId) :
    (∀ file ∈ FileName.files a.text, FileName.Proper file) ∧
    FileName.lockFile a.text = FileName.withExtension (FileName.dataFile a.text) "lock" ∧
    FileName.tempFile a.text = FileName.withExtension (FileName.dataFile a.text) "json.tmp" ∧
    (∀ op : Operation, op.id = a →
      Follows (Sees f a) (f.backend.perform op) ∧ Keeps (Owns f a) (f.backend.perform op)) ∧
    (∀ b : InventoryId, FileName.Apart a.text b.text →
      ∀ file ∈ FileName.files a.text, ∀ other ∈ FileName.files b.text, file ≠ other) ∧
    ∀ ops : List Operation, (∀ op ∈ ops, op.id = a ∨ FileName.Apart a.text op.id.text) →
      ∀ d, f.backend.answersOn a ops d = f.backend.answers (ops.filter (·.id = a)) d := by
  have extended := FileName.withExtension_dataFile a.text_ne_empty
  refine ⟨fun file => FileName.proper_of_mem_files, ?_, ?_, ?_, ?_, ?_⟩
  · exact (extended "lock").symm
  · exact (extended "json.tmp").symm
  · rintro op rfl
    exact ⟨follows_perform f op, keeps_perform f op⟩
  · intro b apart file member other member'
    exact FileName.ne_of_mem_files apart member member'
  · intro ops apart d
    exact answersOn_eq_of_agree apart fun _ _ => rfl

def slashed : InventoryId := ⟨"tickets/b", by decide⟩

/-- An id that looks like the stem of the other. -/
def spelled : InventoryId := ⟨"tickets.2fb", by decide⟩

theorem slashed_unmoved_by_spelled :
    FileName.Apart slashed.text spelled.text ∧
    (∀ file ∈ FileName.files slashed.text, ∀ other ∈ FileName.files spelled.text, file ≠ other) ∧
    ∀ d, (Folder.mk ["data"] "data").backend.answersOn slashed
        [.allocate slashed 5 0, .allocate spelled 9 1, .remove spelled, .peek slashed 1] d =
      (Folder.mk ["data"] "data").backend.answers [.allocate slashed 5 0, .peek slashed 1] d := by
  have apart : FileName.Apart slashed.text spelled.text := by
    constructor
    · decide
    · intro long
      exact absurd long (FileName.not_long_of_utf8ByteSize_le (by decide))
  have never := (inventories_never_meet (.mk ["data"] "data") slashed).2.2.2.2
  refine ⟨apart, never.1 spelled apart, never.2 _ ?_⟩
  intro op member
  simp only [List.mem_cons, List.not_mem_nil, or_false] at member
  rcases member with rfl | rfl | rfl | rfl
  · exact .inl rfl
  · exact .inr apart
  · exact .inr apart
  · exact .inl rfl

end Folder
end Mintmark.Store
