import Mintmark.Proofs.Store.Crashes
import Mintmark.Proofs.Store.Filing

/-!
# Counters of stores in use

Whatever has happened to a folder since it was vacant, also by processes that stopped on the way,
every counter in it can be read and goes on from there: the value that is shown as the next one is
the value that is taken next. No counter in memory behaves otherwise.
-/

namespace Mintmark.Store

/-- The counter of an inventory shows this value as the next one, and this is the value that it
gives next, unless it is the greatest there is. -/
structure Backend.StandsAt {σ : Type} (b : Backend σ) (id : InventoryId) (start next : UInt64)
    (s : σ) : Prop where
  peek : b.peek id start s = (.ok next, s)
  counter : ∃ found, b.counter id s = (.ok found, s) ∧ (found.map (·.next)).getD start = next
  allocate : ∀ now, Number.fits64 now = true →
    (next = Counter.maxValue → (b.allocate id start now s).1 = .error (.overflow id.text)) ∧
    (next ≠ Counter.maxValue → (b.allocate id start now s).1 = .ok next)

namespace Memory

theorem standsAt (m : Memory) (id : InventoryId) (start : UInt64) :
    backend.StandsAt id start (m.peek id start) m where
  peek := rfl
  counter := ⟨_, rfl, rfl⟩
  allocate now _ := by
    have next := m.next_met id start now
    constructor
    · intro full
      change (allocate id start now m).1 = _
      rw [allocate_fst, Counter.advance?_of_full (next.trans full)]
      rfl
    · intro room
      change (allocate id start now m).1 = _
      rw [← next] at room
      rw [allocate_fst, (m.counted_met id start now).advance?_of_room room, ← next]
      rfl

end Memory

namespace Folder

open Processes (Shows)

/-- The disks that a folder can be found on: at first there is nothing in its drawers, and then
whatever can happen to it happens, in any order. -/
inductive Reached (f : Folder) : Disk → Prop
  | vacant {d : Disk} (vacant : ∀ drawer, f.Vacant drawer d) : Reached f d
  | prepared {d d' : Disk} (before : Reached f d) (prepared : f.prepare d = (.ok (), d')) :
      Reached f d'
  | probed {d : Disk} (before : Reached f d) : Reached f (f.checkHealth d).2
  | performed {d : Disk} (before : Reached f d) (op : Operation)
      (timed : ∀ id start now, op = .allocate id start now → Number.fits64 now = true) :
      Reached f (f.backend.perform op d).2
  /-- processes take values at the same time, and some of them stop on the way -/
  | shared {d : Disk} (before : Reached f d) (moves : List Processes.Move) :
      Reached f (Processes.State.run f { disk := d } moves).disk
  /-- a process has stopped while it was saving or removing a layout -/
  | torn {d d' : Disk} (before : Reached f d) (id : InventoryId)
      (others : Disk.Agree (fun path => ¬ OwnsIn f .configs id path) d d') : Reached f d'

/-- The probe stands beside the drawers. -/
theorem probePath_not_mem_ancestors (f : Folder) (drawer : Drawer) :
    f.probePath ∉ Disk.ancestors (f.path drawer "") := by
  rw [ancestors_path, List.mem_append, List.mem_singleton, not_or]
  constructor
  · intro member
    have shorter := Disk.length_of_mem_ancestors member
    simp only [probePath, List.length_append, List.length_singleton] at shorter
    exact Nat.lt_irrefl _ shorter
  · intro same
    have name := List.singleton_inj.mp (List.append_cancel_left same)
    cases drawer <;> exact absurd name (by decide)

theorem keeps_checkHealth (f : Folder) : Keeps (f.probePath = ·) f.checkHealth := by
  intro d
  unfold checkHealth
  rcases d.lookup f.base with _ | _ | _
  · exact fun _ _ => rfl
  · exact fun _ _ => rfl
  · dsimp only
    cases written : d.write f.probePath "ok".toUTF8 with
    | error fault => exact fun _ _ => rfl
    | ok d' =>
      have wrote := Disk.confined_write rfl _ d d' written
      dsimp only
      cases removed : d'.remove f.probePath with
      | error fault => exact wrote
      | ok d'' =>
        have took := Disk.confined_remove rfl d' d'' removed
        exact wrote.trans took

/-- The document of every counter is complete or missing. -/
structure Legible (f : Folder) (d : Disk) : Prop where
  stands : Stands f .sequences d
  whole : ∀ id, ∃ found, Shows f d id found

namespace Legible

variable {f : Folder} {d d' : Disk}

theorem of_same (legible : Legible f d)
    (way : ∀ a ∈ Disk.ancestors (f.path .sequences ""), d'.node? a = d.node? a)
    (files : ∀ file, d'.node? (f.path .sequences file) = d.node? (f.path .sequences file)) :
    Legible f d' := by
  constructor
  · constructor
    · intro a member
      rw [way a member]
      exact legible.stands.folders a member
    · intro file
      rw [files]
      exact legible.stands.files file
  · intro id
    obtain ⟨found, shows⟩ := legible.whole id
    refine ⟨found, shows.of_data ?_⟩
    rw [Processes.data?, Processes.data?, content?, content?, files]

theorem prepared (legible : Legible f d) (prepared : f.prepare d = (.ok (), d')) :
    Legible f d' := by
  have makes := prepare_makes prepared
  apply legible.of_same
  · intro a member
    have there := legible.stands.folders a member
    rw [there, makes.stay a there]
  · intro file
    exact node?_of_prepare prepared .sequences file

/-- What becomes of layouts does not matter to counters. -/
theorem of_agree (legible : Legible f d) {id : InventoryId}
    (others : Disk.Agree (fun path => ¬ OwnsIn f .configs id path) d d') : Legible f d' := by
  apply legible.of_same
  · intro a way
    refine (others a ?_).symm
    rintro ⟨file, -, rfl⟩
    exact path_not_mem_ancestors f .configs .sequences file "" way
  · intro file
    refine (others _ ?_).symm
    rintro ⟨other, -, same⟩
    cases (path_inj_drawer same).1

theorem probed (legible : Legible f d) : Legible f (f.checkHealth d).2 := by
  have others := keeps_checkHealth f d
  apply legible.of_same
  · intro a way
    refine (others a ?_).symm
    rintro rfl
    exact probePath_not_mem_ancestors f .sequences way
  · intro file
    refine (others _ ?_).symm
    intro same
    have length := congrArg List.length same
    rw [length_path, probePath, List.length_append] at length
    simp at length

theorem shared (legible : Legible f d) (moves : List Processes.Move) :
    Legible f (Processes.State.run f { disk := d } moves).disk := by
  have kept := (Processes.kept_of_whole legible.stands legible.whole).run moves
  exact ⟨kept.stands, kept.whole⟩

/-- Taking a value is what one process does by itself. -/
theorem allocate (legible : Legible f d) (id : InventoryId) (start : UInt64) {now : Int}
    (timed : Number.fits64 now = true) : Legible f (f.allocate id start now d).2 := by
  have arrived := (Processes.kept_of_whole legible.stands legible.whole).arrive ⟨id, start, now, timed⟩
  have done := arrived.run (List.replicate 8 (.go 0))
  rw [show Processes.State.move f { disk := d } (.arrive ⟨id, start, now, timed⟩) =
    .alone ⟨id, start, now, timed⟩ .opening d [] from rfl, Processes.allocate_alone] at done
  exact ⟨done.stands, done.whole⟩

theorem performed (legible : Legible f d) (op : Operation)
    (timed : ∀ id start now, op = .allocate id start now → Number.fits64 now = true) :
    Legible f (f.backend.perform op d).2 := by
  cases op with
  | allocate id start now => exact legible.allocate id start (timed id start now rfl)
  | save stored => exact legible.of_agree (keeps_save f stored d)
  | remove id => exact legible.of_agree (keeps_removeLayout f id d)
  | peek | counter | load => exact legible

/-- Seen from one inventory, a drawer holds the document of its counter and nothing else. -/
theorem exists_holds (legible : Legible f d) (id : InventoryId) :
    ∃ found : Option Counter, Holds f .counters (· = id) d fun _ => found := by
  obtain ⟨found, shows⟩ := legible.whole id
  refine ⟨found, legible.stands, ?_, fun _ => shows.regular⟩
  rintro _ rfl
  exact shows.bytes

theorem standsAt (legible : Legible f d) (id : InventoryId) (start : UInt64) :
    ∃ next, f.backend.StandsAt id start next d := by
  obtain ⟨found, holds⟩ := legible.exists_holds id
  have loaded : f.load Counter.decode .sequences id d = .ok found := holds.load rfl
  have told : Told (· = id) := fun a b _ => a.trans b.symm
  refine ⟨(found.map (·.next)).getD start, ?_, ⟨found, ?_, rfl⟩, ?_⟩
  · simp only [backend, peek, loaded, Except.map]
  · simp only [backend, loaded]
  · intro now timed
    have next : (found.getD (.fresh id start now)).next = (found.map (·.next)).getD start := by
      cases found <;> rfl
    have taken := allocate_holds told timed rfl holds start
    rw [← next]
    constructor
    · intro full
      rw [Counter.advance?_of_full full] at taken
      exact taken.1
    · intro room
      have regular := Counter.regular_getD timed (fun _ => holds.good id _) id start
      rw [regular.counted.advance?_of_room room] at taken
      exact taken.1

end Legible

theorem Reached.legible {f : Folder} {d : Disk} (reached : f.Reached d) : Legible f d := by
  induction reached with
  | vacant vacant =>
    exact ⟨(vacant .sequences).stands, Processes.whole_of_vacant (vacant .sequences)⟩
  | prepared _ prepared ih => exact ih.prepared prepared
  | probed _ ih => exact ih.probed
  | performed _ op timed ih => exact ih.performed op timed
  | shared _ moves ih => exact ih.shared moves
  | torn _ id others ih => exact ih.of_agree others

end Folder
end Mintmark.Store
