import Mintmark.Proofs.Lists
import Mintmark.Proofs.Store.Turns

/-!
# Crashes and faults

A document in the folder is replaced as a whole or not at all, by the one process that holds its
lock, and only by a counter that goes on from the one that is there. So whatever fails and whoever
stops, every document can be read at any time, no counter goes back, and no value is given twice; a
value that was taken when its process stopped or failed is skipped.

The invariant `Kept` ties the documents, the private copies of the lock holders and the values that
were given or are about to be.
-/

namespace Mintmark.Store.Processes

open Folder (Stands Vacant content?)

variable {f : Folder} {d d' : Disk} {id other : InventoryId} {s : State}

/-- The values of an inventory that processes are about to return. -/
def State.carried (s : State) (id : InventoryId) : List UInt64 :=
  s.processes.filterMap fun p => if p.request.id = id then p.stage.value? else none

/-- The values of an inventory that were returned or are about to be. -/
def State.taken (s : State) (id : InventoryId) : List UInt64 := s.given id ++ s.carried id

/-- The private copy of a counter goes on from the document by one value. -/
structure Copy (f : Folder) (d : Disk) (id : InventoryId) (value : UInt64) (counter : Counter) :
    Prop where
  regular : counter.Regular
  next : counter.next.toNat = value.toNat + 1
  from_document : ∃ found, Shows f d id found ∧ ∀ before ∈ found, value = before.next

theorem copy_of_advance {r : Request} {found : Option Counter} (shows : Shows f d r.id found)
    {value : UInt64} {counter : Counter}
    (advanced : (found.getD (.fresh r.id r.start r.now)).advance? r.now = some (value, counter)) :
    Copy f d r.id value counter := by
  obtain ⟨last, next⟩ := Counter.toNat_next_of_advance? advanced
  refine ⟨?_, ?_, found, shows, ?_⟩
  · exact (Counter.regular_getD r.timed shows.regular r.id r.start).of_advance? r.timed advanced
  · rw [next, last]
  · intro before there
    rw [last, Option.mem_def.mp there]
    rfl

theorem Copy.of_data {value : UInt64} {counter : Counter} (copy : Copy f d id value counter)
    (same : data? f d' other = data? f d id) : Copy f d' other value counter := by
  obtain ⟨found, shows, last⟩ := copy.from_document
  exact ⟨copy.regular, copy.next, found, shows.of_data same, last⟩

theorem Copy.value_eq {value : UInt64} {counter before : Counter} (stands : Stands f .sequences d)
    (copy : Copy f d id value counter) (shows : Shows f d id (some before)) :
    value = before.next := by
  obtain ⟨found, shows', last⟩ := copy.from_document
  apply last
  rw [shows'.unique stands shows]
  rfl

/-- What holds at every moment. -/
structure Kept (f : Folder) (s : State) : Prop where
  stands : Stands f .sequences s.disk
  whole : ∀ id, ∃ found, Shows f s.disk id found
  alone : ∀ (i j : Nat) (p q : Process), s.processes[i]? = some p → s.processes[j]? = some q →
    p.stage.holds = true → q.stage.holds = true → Shares p.request.id q.request.id → i = j
  copies : ∀ p ∈ s.processes, ∀ value counter, p.stage.copy? = some (value, counter) →
    Copy f s.disk p.request.id value counter
  drafts : ∀ p ∈ s.processes, ∀ value counter, p.stage = .publishing value counter →
    temp? f s.disk p.request.id = some counter.document
  spent : ∀ id, ∀ value ∈ s.taken id, ∃ counter,
    Shows f s.disk id (some counter) ∧ value.toNat < counter.next.toNat
  distinct : ∀ id, (s.taken id).Nodup

section

variable {i : Nat} {p : Process} {stage : Stage} {disk : Disk}
  {answer? : Option (Except StoreError UInt64)}

theorem given_turned (id : InventoryId) :
    (s.turned i p stage disk answer?).given id =
      s.given id ++ (if p.request.id = id then earned? answer? else none).toList := by
  rw [State.given, State.turned, filterMap_append_option, ← State.given]
  by_cases own : p.request.id = id
  · cases answer? <;> simp [own, earned?]
  · cases answer? <;> simp [own]

theorem taken_turned (here : s.processes[i]? = some p) (stage : Stage) (disk : Disk)
    (answer? : Option (Except StoreError UInt64)) (id : InventoryId) :
    ∃ rest,
      (s.taken id).Perm ((if p.request.id = id then p.stage.value? else none).toList ++ rest) ∧
      ((s.turned i p stage disk answer?).taken id).Perm
        (((if p.request.id = id then earned? answer? else none).toList ++
          (if p.request.id = id then stage.value? else none).toList) ++ rest) := by
  obtain ⟨rest, old, new⟩ := filterMap_set_perm
    (fun q : Process => if q.request.id = id then q.stage.value? else none) here
  refine ⟨s.given id ++ rest, ?_, ?_⟩
  · apply (old.append_left (s.given id)).trans
    apply List.perm_append_comm_assoc
  · rw [State.taken, given_turned, List.append_assoc, List.append_assoc]
    apply (((new { p with stage }).append_left _).append_left _).trans
    apply (List.perm_append_comm_assoc _ _ _).trans
    apply List.Perm.append_left
    apply List.perm_append_comm_assoc

theorem Kept.published (kept : Kept f s) (here : s.processes[i]? = some p) {value : UInt64}
    {counter : Counter} (publishing : p.stage = .publishing value counter) {content : ByteArray}
    (draft : temp? f s.disk p.request.id = some content) (shares : Shares id p.request.id)
    (data : data? f disk id = some content) :
    Copy f s.disk id value counter ∧ Shows f disk id (some counter) := by
  have member : p ∈ s.processes := List.mem_of_getElem? here
  have copy : Copy f s.disk p.request.id value counter := by
    apply kept.copies p member
    rw [publishing]
    rfl
  have complete := kept.drafts p member value counter publishing
  rw [draft, Option.some.injEq] at complete
  constructor
  · exact copy.of_data (data?_of_shares shares ..)
  · constructor
    · rw [data, complete]
      rfl
    · intro other found
      rw [← Option.mem_some_iff.mp found]
      exact copy.regular

/-- A document stays as it is unless the process puts a counter in its place that goes on from
it. -/
theorem Kept.document_turned (kept : Kept f s) (here : s.processes[i]? = some p) {free : Bool}
    (turn : Turn f p.request free s.disk p.stage stage disk answer?) (id : InventoryId) :
    data? f disk id = data? f s.disk id ∨ ∃ value counter, p.stage = .publishing value counter ∧
      Shares id p.request.id ∧ Copy f s.disk id value counter ∧ Shows f disk id (some counter) := by
  rcases turn.data with same | ⟨value, counter, content, publishing, draft, data⟩
  · exact .inl (congrFun same id)
  · by_cases shares : Shares id p.request.id
    · have replaced : data? f disk id = some content := by rw [data, if_pos shares]
      obtain ⟨copy, shows⟩ := kept.published here publishing draft shares replaced
      exact .inr ⟨value, counter, publishing, shares, copy, shows⟩
    · left
      rw [data, if_neg shares]

theorem Kept.whole_turned (kept : Kept f s) (here : s.processes[i]? = some p) {free : Bool}
    (turn : Turn f p.request free s.disk p.stage stage disk answer?) (id : InventoryId) :
    ∃ found, Shows f disk id found := by
  rcases kept.document_turned here turn id with same | ⟨_, counter, _, _, _, shows⟩
  · obtain ⟨found, shows⟩ := kept.whole id
    exact ⟨found, shows.of_data same⟩
  · exact ⟨some counter, shows⟩

/-- No counter goes back. -/
theorem Kept.next_turned (kept : Kept f s) (here : s.processes[i]? = some p) {free : Bool}
    (turn : Turn f p.request free s.disk p.stage stage disk answer?) {id : InventoryId}
    {counter : Counter} (before : Shows f s.disk id (some counter)) :
    ∃ counter', Shows f disk id (some counter') ∧ counter.next.toNat ≤ counter'.next.toNat := by
  rcases kept.document_turned here turn id with same | ⟨value, counter', _, _, copy, shows⟩
  · exact ⟨counter, before.of_data same, Nat.le_refl _⟩
  · refine ⟨counter', shows, ?_⟩
    rw [copy.next, copy.value_eq kept.stands before]
    apply Nat.le_succ

/-- Nobody who holds a lock has files in common with an inventory whose lock is free. -/
theorem not_shares_of_isFree (free : s.isFree f id = true) {q : Process} (member : q ∈ s.processes)
    (held : q.stage.holds = true) : ¬ Shares q.request.id id := by
  intro shares
  have lone := List.all_eq_true.mp free q member
  have same : f.lockPath .sequences q.request.id = f.lockPath .sequences id := by
    rw [Folder.lockPath, (FileName.lockFile_inj ..).mpr shares, Folder.lockPath]
  rw [held, same, beq_self_eq_true] at lone
  exact Bool.noConfusion lone

theorem Kept.alone_turned (kept : Kept f s) (here : s.processes[i]? = some p)
    (turn : Turn f p.request (s.isFree f p.request.id) s.disk p.stage stage disk answer?)
    {j : Nat} {q : Process} (there : s.processes[j]? = some q) (held : stage.holds = true)
    (held' : q.stage.holds = true) (shares : Shares q.request.id p.request.id) : i = j := by
  rcases turn.holds held with before | free
  · apply kept.alone i j p q here there before held'
    exact shares.symm
  · have apart := not_shares_of_isFree free (List.mem_of_getElem? there) held'
    exact absurd shares apart

theorem Kept.copy_turned (kept : Kept f s) (here : s.processes[i]? = some p) {free : Bool}
    (turn : Turn f p.request free s.disk p.stage stage disk answer?) {value : UInt64}
    {counter : Counter} (copied : stage.copy? = some (value, counter)) :
    Copy f disk p.request.id value counter := by
  rcases turn.copy copied with ⟨before, data⟩ | ⟨rfl, found, shows, advanced⟩
  · have copy := kept.copies p (List.mem_of_getElem? here) value counter before
    exact copy.of_data (congrFun data _)
  · exact copy_of_advance shows advanced

theorem Kept.draft_turned (kept : Kept f s) (here : s.processes[i]? = some p) {free : Bool}
    {value : UInt64} {counter : Counter}
    (turn : Turn f p.request free s.disk p.stage (.publishing value counter) disk answer?) :
    temp? f disk p.request.id = some counter.document := by
  rcases turn.draft with ⟨before, temp⟩ | written
  · rw [temp]
    exact kept.drafts p (List.mem_of_getElem? here) value counter before
  · exact written

/-- What another process that holds a lock relies on is left alone. -/
theorem Kept.others_turned (kept : Kept f s) (here : s.processes[i]? = some p) {free : Bool}
    (turn : Turn f p.request free s.disk p.stage stage disk answer?) {j : Nat} {q : Process}
    (there : s.processes[j]? = some q) (ne : j ≠ i) (held : q.stage.holds = true) :
    data? f disk q.request.id = data? f s.disk q.request.id ∧
      temp? f disk q.request.id = temp? f s.disk q.request.id := by
  have apart (shares : Shares q.request.id p.request.id) : p.stage.holds = false := by
    by_contra held'
    rw [Bool.not_eq_false] at held'
    exact ne (kept.alone j i q p there here held held' shares)
  constructor
  · rcases kept.document_turned here turn q.request.id with same | ⟨_, _, publishing, shares, _⟩
    · exact same
    · have unheld := apart shares
      rw [publishing] at unheld
      cases unheld
  · exact turn.temp apart

/-- After a turn, the values taken are some of those before, or the value of the counter that the
turn has put in place has come to them. -/
theorem Kept.taken_cases (kept : Kept f s) (here : s.processes[i]? = some p) {free : Bool}
    (turn : Turn f p.request free s.disk p.stage stage disk answer?) (id : InventoryId) :
    List.Subperm ((s.turned i p stage disk answer?).taken id) (s.taken id) ∨
    ∃ value counter, Copy f s.disk id value counter ∧ Shows f disk id (some counter) ∧
      ((s.turned i p stage disk answer?).taken id).Perm (value :: s.taken id) := by
  obtain ⟨rest, old, new⟩ := taken_turned here stage disk answer? id
  by_cases own : p.request.id = id
  · simp only [if_pos own] at old new
    rcases turn.value with fewer | ⟨value, counter, content, publishing, gained, draft, data⟩
    · left
      exact new.subperm.trans ((fewer.append_right rest).subperm.trans old.symm.subperm)
    · right
      obtain ⟨copy, shows⟩ := kept.published here publishing draft rfl data
      rw [own] at copy shows
      refine ⟨value, counter, copy, shows, ?_⟩
      rw [publishing] at old
      rw [gained] at new
      exact new.trans (old.symm.cons value)
  · simp only [if_neg own] at old new
    left
    exact (new.trans old.symm).subperm

theorem Kept.spent_turned (kept : Kept f s) (here : s.processes[i]? = some p) {free : Bool}
    (turn : Turn f p.request free s.disk p.stage stage disk answer?) {id : InventoryId}
    {value : UInt64} (member : value ∈ (s.turned i p stage disk answer?).taken id) :
    ∃ counter, Shows f disk id (some counter) ∧ value.toNat < counter.next.toNat := by
  have old (before : value ∈ s.taken id) :
      ∃ counter, Shows f disk id (some counter) ∧ value.toNat < counter.next.toNat := by
    obtain ⟨counter, shows, less⟩ := kept.spent id value before
    obtain ⟨counter', shows', le⟩ := kept.next_turned here turn shows
    exact ⟨counter', shows', Nat.lt_of_lt_of_le less le⟩
  rcases kept.taken_cases here turn id with fewer | ⟨fresh, counter, copy, shows, more⟩
  · exact old (fewer.subset member)
  · rcases List.mem_cons.mp (more.subset member) with rfl | before
    · refine ⟨counter, shows, ?_⟩
      rw [copy.next]
      apply Nat.lt_succ_self
    · exact old before

theorem Kept.distinct_turned (kept : Kept f s) (here : s.processes[i]? = some p) {free : Bool}
    (turn : Turn f p.request free s.disk p.stage stage disk answer?) (id : InventoryId) :
    ((s.turned i p stage disk answer?).taken id).Nodup := by
  rcases kept.taken_cases here turn id with ⟨some, perm, sub⟩ | ⟨fresh, _, copy, _, more⟩
  · exact perm.nodup_iff.mp ((kept.distinct id).sublist sub)
  · rw [more.nodup_iff, List.nodup_cons]
    constructor
    · intro before
      -- what was taken before is below the document, and the value is that of the document
      obtain ⟨counter, shows, less⟩ := kept.spent id fresh before
      rw [copy.value_eq kept.stands shows] at less
      exact Nat.lt_irrefl _ less
    · exact kept.distinct id

theorem Kept.turned (kept : Kept f s) (here : s.processes[i]? = some p)
    (turn : Turn f p.request (s.isFree f p.request.id) s.disk p.stage stage disk answer?) :
    Kept f (s.turned i p stage disk answer?) where
  stands := turn.stands kept.stands
  whole := kept.whole_turned here turn
  alone j k q q' there there' held held' shares := by
    rcases getElem?_turned there with ⟨rfl, rfl⟩ | ⟨ne, before⟩
    · rcases getElem?_turned there' with ⟨rfl, rfl⟩ | ⟨ne', before'⟩
      · rfl
      · exact kept.alone_turned here turn before' held held' shares.symm
    · rcases getElem?_turned there' with ⟨rfl, rfl⟩ | ⟨ne', before'⟩
      · exact (kept.alone_turned here turn before held' held shares).symm
      · exact kept.alone j k q q' before before' held held' shares
  copies q member value counter copied := by
    obtain ⟨j, there⟩ := List.getElem?_of_mem member
    rcases getElem?_turned there with ⟨rfl, rfl⟩ | ⟨ne, before⟩
    · exact kept.copy_turned here turn copied
    · have held : q.stage.holds = true := holds_of_copy? copied
      have copy := kept.copies q (List.mem_of_getElem? before) value counter copied
      exact copy.of_data (kept.others_turned here turn before ne held).1
  drafts q member value counter publishing := by
    obtain ⟨j, there⟩ := List.getElem?_of_mem member
    rcases getElem?_turned there with ⟨rfl, rfl⟩ | ⟨ne, before⟩
    · cases publishing
      exact kept.draft_turned here turn
    · have held : q.stage.holds = true := by
        rw [publishing]
        rfl
      apply (kept.others_turned here turn before ne held).2.trans
      exact kept.drafts q (List.mem_of_getElem? before) value counter publishing
  spent id value := kept.spent_turned here turn
  distinct := kept.distinct_turned here turn

end

/-- Before anything is done, all that is asked for is that every document can be read. -/
theorem kept_of_whole (stands : Stands f .sequences d) (whole : ∀ id, ∃ found, Shows f d id found) :
    Kept f { disk := d } where
  stands := stands
  whole := whole
  alone i j p q here := by cases here
  copies p member := by cases member
  drafts p member := by cases member
  spent id value member := by cases member
  distinct id := List.nodup_nil

theorem whole_of_vacant (vacant : Vacant f .sequences d) (id : InventoryId) :
    ∃ found, Shows f d id found := by
  refine ⟨none, ?_, ?_⟩
  · rw [data?, content?, vacant.nothing]
    rfl
  · intro counter found
    cases found

theorem kept_start (vacant : Vacant f .sequences d) : Kept f { disk := d } :=
  kept_of_whole vacant.stands (whole_of_vacant vacant)

theorem Kept.arrive (kept : Kept f s) (r : Request) : Kept f (s.move f (.arrive r)) := by
  have old {j : Nat} {q : Process} (there : (s.processes ++ [⟨r, .opening⟩])[j]? = some q)
      (held : q.stage.holds = true) : s.processes[j]? = some q := by
    rw [List.getElem?_append] at there
    split at there
    · exact there
    · rw [List.getElem?_singleton] at there
      split at there
      · cases there
        cases held
      · cases there
  have taken (id : InventoryId) : (s.move f (.arrive r)).taken id = s.taken id := by
    rw [State.taken, State.carried, State.move, List.filterMap_append]
    simp [State.taken, State.carried, State.given, Stage.value?]
  refine ⟨kept.stands, kept.whole, ?_, ?_, ?_, ?_, ?_⟩
  · intro i j p q here there held held' shares
    exact kept.alone i j p q (old here held) (old there held') held held' shares
  · intro p member value counter copied
    obtain ⟨j, there⟩ := List.getElem?_of_mem member
    have before := old there (holds_of_copy? copied)
    exact kept.copies p (List.mem_of_getElem? before) value counter copied
  · intro p member value counter publishing
    obtain ⟨j, there⟩ := List.getElem?_of_mem member
    have before := old there (by rw [publishing]; rfl)
    exact kept.drafts p (List.mem_of_getElem? before) value counter publishing
  · intro id value member
    rw [taken] at member
    exact kept.spent id value member
  · intro id
    rw [taken]
    exact kept.distinct id

/-- Whatever is done next, the invariant stays and no counter goes back. -/
theorem Kept.move (kept : Kept f s) (m : Move) :
    Kept f (s.move f m) ∧ ∀ id counter, Shows f s.disk id (some counter) →
      ∃ counter', Shows f (s.move f m).disk id (some counter') ∧
        counter.next.toNat ≤ counter'.next.toNat := by
  rcases move_cases kept.stands kept.whole m with
    ⟨r, rfl⟩ | same | ⟨i, p, stage, disk, answer?, here, turn, moved⟩
  · constructor
    · exact kept.arrive r
    · intro id counter shows
      exact ⟨counter, shows, Nat.le_refl _⟩
  · rw [same]
    constructor
    · exact kept
    · intro id counter shows
      exact ⟨counter, shows, Nat.le_refl _⟩
  · rw [moved]
    constructor
    · exact kept.turned here turn
    · intro id counter shows
      exact kept.next_turned here turn shows

theorem Kept.run (kept : Kept f s) (moves : List Move) : Kept f (s.run f moves) :=
  run_keeps (fun _ m kept => (kept.move m).1) moves kept

theorem Kept.next_run (kept : Kept f s) (moves : List Move) {counter : Counter}
    (shows : Shows f s.disk id (some counter)) :
    ∃ counter', Shows f (s.run f moves).disk id (some counter') ∧
      counter.next.toNat ≤ counter'.next.toNat := by
  have keeps := run_keeps (f := f) (P := fun s => Kept f s ∧ ∃ counter',
    Shows f s.disk id (some counter') ∧ counter.next.toNat ≤ counter'.next.toNat)
  apply (keeps ?_ moves ⟨kept, counter, shows, Nat.le_refl _⟩).2
  rintro s m ⟨kept, counter', shows, le⟩
  obtain ⟨kept', goes⟩ := kept.move m
  obtain ⟨counter'', shows', le'⟩ := goes id counter' shows
  exact ⟨kept', counter'', shows', Nat.le_trans le le'⟩

theorem Kept.shows_of_load (kept : Kept f s) {counter : Counter}
    (loaded : f.load Counter.decode .sequences id s.disk = .ok (some counter)) :
    Shows f s.disk id (some counter) := by
  obtain ⟨found, shows⟩ := kept.whole id
  rw [shows.load kept.stands, Except.ok.injEq] at loaded
  rw [← loaded]
  exact shows

/-- Processes take values from the counters of a folder that was empty, in any order of their steps.
Any step may fail, also after it has taken effect, and any process may stop at any point, also while
it writes. At every moment the document of a counter is missing or complete, from then on it stays
and its next value never goes down, and no value of an inventory is ever returned twice. -/
theorem allocations_survive_crashes {f : Folder} {start : Disk}
    (vacant : Vacant f .sequences start) (moves more : List Move) (id : InventoryId) :
    let now := State.run f { disk := start } moves
    let later := now.run f more
    (now.disk.read (f.dataPath .sequences id) = .error .notFound ∨
      ∃ content counter, now.disk.read (f.dataPath .sequences id) = .ok content ∧
        Folder.decodeBytes Counter.decode content = .ok counter) ∧
    (∀ counter, f.load Counter.decode .sequences id now.disk = .ok (some counter) →
      ∃ counter', f.load Counter.decode .sequences id later.disk = .ok (some counter') ∧
        counter.next ≤ counter'.next) ∧
    (later.given id).Nodup := by
  intro now later
  have kept : Kept f now := (kept_start vacant).run moves
  have kept' : Kept f later := kept.run more
  refine ⟨?_, ?_, ?_⟩
  · obtain ⟨found, shows⟩ := kept.whole id
    cases found with
    | none =>
      left
      exact shows.read kept.stands
    | some counter =>
      right
      refine ⟨counter.document, counter, shows.read kept.stands, ?_⟩
      exact Counter.decodeBytes_document ((shows.regular counter rfl).timed)
  · intro counter loaded
    obtain ⟨counter', shows, le⟩ := kept.next_run more (kept.shows_of_load loaded)
    refine ⟨counter', shows.load kept'.stands, ?_⟩
    exact UInt64.le_iff_toNat_le.mpr le
  · exact (List.nodup_append.mp (kept'.distinct id)).1

def shelf : Folder := ⟨["srv", "data"], "/srv/data"⟩

def boxes : InventoryId := ⟨"boxes", by decide⟩

def taking : Request := ⟨boxes, 1, 0, by decide⟩

/-- The first process stops while it writes, and the second loses the value it has taken when the
folder cannot be made durable. -/
def mishaps : List Move :=
  [.arrive taking, .arrive taking, .go 0, .go 1, .go 0, .go 0, .scribble 0 "half".toUTF8, .crash 0,
    .go 1, .go 1, .go 1, .go 1, .fail 1 true (.fileIO "fsync"), .go 1, .go 1]

/-- Two more processes go through, one after the other. -/
def retries : List Move :=
  .arrive taking :: List.replicate 8 (.go 2) ++ .arrive taking :: List.replicate 8 (.go 3)

theorem values_differ_after_mishaps :
    let now := State.run shelf { disk := (shelf.prepare .empty).2 } mishaps
    let later := now.run shelf retries
    Vacant shelf .sequences (shelf.prepare .empty).2 ∧
      (now.returned = [(boxes, .error (.fileIO "fsync"))] ∧ later.given boxes = [2, 3]) ∧
      (later.given boxes).Nodup := by
  have prepared : shelf.prepare .empty = (.ok (), (shelf.prepare .empty).2) := rfl
  have vacant : Vacant shelf .sequences (shelf.prepare .empty).2 := by
    apply Folder.vacant_of_prepare prepared
    intro file
    rw [Disk.node?_of_ne_nil (Folder.path_ne_nil _ _ _)]
    rfl
  refine ⟨vacant, by decide +kernel, ?_⟩
  exact (allocations_survive_crashes vacant mishaps retries boxes).2.2

end Mintmark.Store.Processes
