import Mintmark.Proofs.Store.Documents
import Mintmark.Proofs.Store.Drawers
import Mintmark.Proofs.Store.FileNames

/-!
# Processes on one folder

Any number of processes take values from the counters in a folder. Each goes through the steps of
`Folder.allocate` by itself: it opens the lock file, waits for the lock, reads the document, writes
the temporary file, renames it, makes the folder durable, lets go of the lock and returns. Any step
may fail, before or after it has taken effect, and any process may stop for ever at any point, also
with a temporary file half written. A lock is held by one process at a time, and by none that has
stopped.

The steps of one process alone are `Folder.allocate`, which is `allocate_alone`.
-/

namespace Mintmark.Store.Processes

open Folder (Drawer)

/-- A request for a value, at a time that has 64 bits. -/
structure Request where
  id : InventoryId
  start : UInt64
  now : Int
  timed : Number.fits64 now = true

inductive Stage where
  | opening
  | waiting
  | reading
  /-- the temporary file is being written -/
  | writing (value : UInt64) (counter : Counter)
  /-- the temporary file is complete -/
  | publishing (value : UInt64) (counter : Counter)
  | syncing (value : UInt64)
  | releasing (answer : Except StoreError UInt64)
  | returning (answer : Except StoreError UInt64)
  | ended
  | crashed

namespace Stage

def holds : Stage → Bool
  | reading | writing .. | publishing .. | syncing _ | releasing _ => true
  | opening | waiting | returning _ | ended | crashed => false

/-- The private copy of the counter, with the value to be given. -/
def copy? : Stage → Option (UInt64 × Counter)
  | writing value counter | publishing value counter => some (value, counter)
  | _ => none

/-- The value that will be returned unless something happens. -/
def value? : Stage → Option UInt64
  | syncing value | releasing (.ok value) | returning (.ok value) => some value
  | _ => none

/-- Where a process stands after a step that failed. A lock that is held is still let go of. -/
def failed (error : StoreError) : Stage → Stage
  | opening | waiting => returning (.error error)
  | reading | writing .. | publishing .. | syncing _ => releasing (.error error)
  | releasing answer => returning answer
  | returning answer => returning answer
  | ended => ended
  | crashed => crashed

end Stage

/-- One step, as it is meant to go. -/
def step (f : Folder) (r : Request) (free : Bool) (d : Disk) : Stage → Stage × Disk
  | .opening =>
    match f.lock .sequences r.id d with
    | (.ok (), d) => (.waiting, d)
    | (.error error, d) => (.returning (.error error), d)
  | .waiting => (if free then .reading else .waiting, d)
  | .reading =>
    match f.load Counter.decode .sequences r.id d with
    | .error error => (.releasing (.error error), d)
    | .ok found =>
      match (found.getD (.fresh r.id r.start r.now)).advance r.now with
      | .taken value counter => (.writing value counter, d)
      | .full => (.releasing (.error (.overflow r.id.text)), d)
      | .halted _ => (.releasing (.error .halted), d)
  | .writing value counter =>
    match f.writeTemp .sequences r.id counter.encode d with
    | (.ok (), d) => (.publishing value counter, d)
    | (.error error, d) => (.releasing (.error error), d)
  | .publishing value _ =>
    match f.publish .sequences r.id d with
    | (.ok (), d) => (.syncing value, d)
    | (.error error, d) => (.releasing (.error error), d)
  | .syncing value => (.releasing (.ok value), d)
  | .releasing answer => (.returning answer, d)
  | .returning _ => (.ended, d)
  | .ended => (.ended, d)
  | .crashed => (.crashed, d)

structure Process where
  request : Request
  stage : Stage

structure State where
  disk : Disk
  processes : List Process := []
  returned : List (InventoryId × Except StoreError UInt64) := []

inductive Move where
  | arrive (r : Request)
  | go (i : Nat)
  /-- a step fails, before it has taken effect or after -/
  | fail (i : Nat) (late : Bool) (error : StoreError)
  /-- some bytes come to stand in the temporary file while it is written -/
  | scribble (i : Nat) (content : ByteArray)
  | crash (i : Nat)

namespace State

/-- No process holds the lock file of the inventory. -/
def isFree (f : Folder) (s : State) (id : InventoryId) : Bool :=
  s.processes.all fun p =>
    !(p.stage.holds && f.lockPath .sequences p.request.id == f.lockPath .sequences id)

def put (s : State) (i : Nat) (p : Process) (stage : Stage) (disk : Disk) : State :=
  { s with disk, processes := s.processes.set i { p with stage } }

/-- The answer that a process returns with its next step. -/
def answer? : Stage → Option (Except StoreError UInt64)
  | .returning answer => some answer
  | _ => none

def move (f : Folder) (s : State) : Move → State
  | .arrive request => { s with processes := s.processes ++ [{ request, stage := .opening }] }
  | .go i =>
    match s.processes[i]? with
    | none => s
    | some p =>
      let (stage, disk) := step f p.request (s.isFree f p.request.id) s.disk p.stage
      let returned := (answer? p.stage).map fun answer => (p.request.id, answer)
      { s.put i p stage disk with returned := s.returned ++ returned.toList }
  | .fail i late error =>
    match s.processes[i]? with
    | none => s
    | some p =>
      let (_, disk) := step f p.request (s.isFree f p.request.id) s.disk p.stage
      s.put i p (p.stage.failed error) (if late then disk else s.disk)
  | .scribble i content =>
    match s.processes[i]? with
    | some p =>
      match p.stage, s.disk.write (f.tempPath .sequences p.request.id) content with
      | .writing .., .ok disk => { s with disk }
      | _, _ => s
    | none => s
  | .crash i =>
    match s.processes[i]? with
    | none => s
    | some p => s.put i p .crashed s.disk

def run (f : Folder) (s : State) (moves : List Move) : State := moves.foldl (move f) s

/-- The values of an inventory that were returned. -/
def given (s : State) (id : InventoryId) : List UInt64 :=
  s.returned.filterMap fun (other, answer) => if other = id then answer.toOption else none

end State

theorem run_keeps {f : Folder} {P : State → Prop} (step : ∀ s m, P s → P (s.move f m))
    (moves : List Move) {s : State} (start : P s) : P (s.run f moves) := by
  induction moves generalizing s with
  | nil => exact start
  | cons m moves ih => exact ih (step s m start)

section

def State.alone (r : Request) (stage : Stage) (d : Disk)
    (returned : List (InventoryId × Except StoreError UInt64)) : State :=
  { disk := d, processes := [⟨r, stage⟩], returned }

variable (f : Folder) (r : Request) (d : Disk) (n : Nat)

theorem run_alone (stage : Stage) (returned : List (InventoryId × Except StoreError UInt64)) :
    (State.alone r stage d returned).run f (List.replicate (n + 1) (.go 0)) =
      (State.alone r (step f r (!stage.holds) d stage).1 (step f r (!stage.holds) d stage).2
        (returned ++ ((State.answer? stage).map fun answer => (r.id, answer)).toList)).run f
          (List.replicate n (.go 0)) := by
  have free : (State.alone r stage d returned).isFree f r.id = !stage.holds := by
    simp [State.isFree, State.alone]
  rw [List.replicate_succ, State.run, List.foldl_cons, State.move]
  simp only [State.alone] at free ⊢
  simp only [List.getElem?_cons_zero, free]
  rfl

theorem run_silent {stage : Stage} (silent : State.answer? stage = none) :
    (State.alone r stage d []).run f (List.replicate (n + 1) (.go 0)) =
      (State.alone r (step f r (!stage.holds) d stage).1 (step f r (!stage.holds) d stage).2 []).run f
        (List.replicate n (.go 0)) := by
  rw [run_alone, silent]
  rfl

theorem run_ended (returned : List (InventoryId × Except StoreError UInt64)) :
    (State.alone r .ended d returned).run f (List.replicate n (.go 0)) =
      .alone r .ended d returned := by
  induction n with
  | zero => rfl
  | succ n ih =>
    rw [run_alone]
    simpa [step, State.answer?] using ih

theorem run_returning (answer : Except StoreError UInt64) :
    (State.alone r (.returning answer) d []).run f (List.replicate (n + 1) (.go 0)) =
      .alone r .ended d [(r.id, answer)] := by
  rw [run_alone]
  exact run_ended ..

theorem run_releasing (answer : Except StoreError UInt64) :
    (State.alone r (.releasing answer) d []).run f (List.replicate (n + 2) (.go 0)) =
      .alone r .ended d [(r.id, answer)] := by
  rw [run_silent _ _ _ _ rfl]
  exact run_returning ..

theorem run_writing (value : UInt64) (counter : Counter) :
    (State.alone r (.writing value counter) d []).run f (List.replicate (n + 5) (.go 0)) =
      let done := Folder.andThen (f.replace .sequences r.id counter.encode)
        (fun _ d => (.ok value, d)) d
      .alone r .ended done.2 [(r.id, done.1)] := by
  rw [run_silent _ _ _ _ rfl]
  simp only [step, Folder.replace, Folder.andThen]
  rcases f.writeTemp .sequences r.id counter.encode d with ⟨error | _, written⟩
  · exact run_releasing ..
  · dsimp only
    rw [run_silent _ _ _ _ rfl]
    simp only [step]
    rcases f.publish .sequences r.id written with ⟨error | _, published⟩
    · exact run_releasing ..
    · dsimp only
      rw [run_silent _ _ _ _ rfl]
      exact run_releasing ..

theorem run_reading :
    (State.alone r .reading d []).run f (List.replicate (n + 6) (.go 0)) =
      let done : Except StoreError UInt64 × Disk :=
        match f.load Counter.decode .sequences r.id d with
        | .error error => (.error error, d)
        | .ok found =>
          match (found.getD (.fresh r.id r.start r.now)).advance r.now with
          | .taken value counter =>
            Folder.andThen (f.replace .sequences r.id counter.encode)
              (fun _ d => (.ok value, d)) d
          | .full => (.error (.overflow r.id.text), d)
          | .halted _ => (.error .halted, d)
      .alone r .ended done.2 [(r.id, done.1)] := by
  rw [run_silent _ _ _ _ rfl]
  simp only [step]
  rcases f.load Counter.decode .sequences r.id d with error | found
  · exact run_releasing ..
  · dsimp only
    cases (found.getD (.fresh r.id r.start r.now)).advance r.now with
    | taken value counter => exact run_writing ..
    | full | halted => exact run_releasing ..

/-- One process by itself takes a value as `Folder.allocate` does. -/
theorem allocate_alone :
    (State.alone r .opening d []).run f (List.replicate 8 (.go 0)) =
      let done := f.allocate r.id r.start r.now d
      .alone r .ended done.2 [(r.id, done.1)] := by
  rw [run_silent f r d 7 rfl]
  simp only [step, Folder.allocate, Folder.andThen]
  rcases f.lock .sequences r.id d with ⟨error | _, opened⟩
  · exact run_returning f r opened 6 _
  · dsimp only
    rw [run_silent f r opened 6 rfl]
    simp only [step, Stage.holds, Bool.not_false, if_true]
    exact run_reading f r opened 0

end

end Mintmark.Store.Processes
