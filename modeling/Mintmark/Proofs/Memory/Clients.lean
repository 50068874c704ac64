import Mintmark.Proofs.Memory.Cells
import Mintmark.Proofs.Memory.Sequential

/-!
# Clients of shared counters

Any number of clients allocate from shared counters and peek at them, each in the steps that a call
takes: an allocation looks for the counter, makes it if it was not there, advances it, and returns;
a peek looks, reads, and returns. A schedule is a list of moves of which each lets a client arrive
or take one step, so every order of steps is a schedule. What happens is kept as a list of events.

A step is described once, by `Turn`: everything said about runs goes by its cases.
-/

namespace Mintmark.Store.Shared

inductive Request where
  | allocate (id : InventoryId) (start : UInt64)
  | peek (id : InventoryId) (start : UInt64)
deriving DecidableEq

namespace Request

def id : Request → InventoryId
  | allocate id _ | peek id _ => id

def start : Request → UInt64
  | allocate _ start | peek _ start => start

def allocates : Request → Bool
  | allocate .. => true
  | peek .. => false

end Request

inductive Stage where
  | begun
  /-- looked for the counter, which was not there -/
  | missing
  | holding (handle : Nat)
  | answering (answer : Except StoreError UInt64)
  | ended

/-- A client with one call to make. One that makes several is several clients in turn. -/
structure Client where
  request : Request
  stage : Stage := .begun

inductive Event where
  | began (client : Nat) (request : Request)
  /-- the counter of an inventory was advanced past a value -/
  | advanced (id : InventoryId) (value : UInt64)
  | returned (client : Nat) (request : Request) (answer : Except StoreError UInt64)

structure State where
  cells : Cells := .empty
  clients : List Client := []
  events : List Event := []

/-- The next step of a call: where it gets to, what becomes of the cells, and what is to be noted. -/
def Request.step (r : Request) (client : Nat) (now : Int) (c : Cells) :
    Stage → Stage × Cells × Option Event
  | .begun =>
    match c.handles.find? r.id, r with
    | some handle, _ => (.holding handle, c, none)
    | none, .allocate .. => (.missing, c, none)
    | none, .peek _ start => (.answering (.ok start), c, none)
  | .missing =>
    match c.enter r.id r.start now with
    | (handle, c) => (.holding handle, c, none)
  | .holding handle =>
    match r with
    | .peek _ start => (.answering (.ok ((c.cells[handle]?).elim start (·.next))), c, none)
    | .allocate id _ =>
      match c.advance handle now with
      | (some value, c) => (.answering (.ok value), c, some (.advanced id value))
      | (none, c) => (.answering (.error (.overflow id.text)), c, none)
  | .answering answer => (.ended, c, some (.returned client r answer))
  | .ended => (.ended, c, none)

inductive Move where
  | arrive (request : Request)
  /-- one step of a client, at some time in milliseconds -/
  | go (client : Nat) (now : Int)

namespace State

def move (s : State) : Move → State
  | .arrive request =>
    { s with
      clients := s.clients ++ [{ request }]
      events := s.events ++ [.began s.clients.length request] }
  | .go i now =>
    match s.clients[i]? with
    | none => s
    | some client =>
      match client.request.step i now s.cells client.stage with
      | (stage, cells, event) =>
        { cells
          clients := s.clients.set i { client with stage }
          events := s.events ++ event.toList }

def run (s : State) (moves : List Move) : State := moves.foldl move s

def Idle (s : State) : Prop := ∀ client ∈ s.clients, client.stage = .ended

end State

/-- Whether the counter of an inventory has no value left. -/
def Full (c : Cells) (id : InventoryId) : Prop :=
  ∃ counter, c.counter? id = some counter ∧ counter.next = Counter.maxValue

inductive Turn (r : Request) (client : Nat) (c : Cells) :
    Stage → Stage → Cells → Option Event → Prop where
  | found {handle} (here : c.handles.find? r.id = some handle) :
      Turn r client c .begun (.holding handle) c none
  | missed (gone : c.counter? r.id = none) (allocates : r.allocates = true) :
      Turn r client c .begun .missing c none
  | guessed (gone : c.counter? r.id = none) (peeks : r.allocates = false) :
      Turn r client c .begun (.answering (.ok r.start)) c none
  | entered (now) :
      Turn r client c .missing (.holding (c.enter r.id r.start now).1)
        (c.enter r.id r.start now).2 none
  | read {handle counter} (peeks : r.allocates = false)
      (here : c.counter? r.id = some counter) :
      Turn r client c (.holding handle) (.answering (.ok counter.next)) c none
  | advanced {handle now value d old new} (allocates : r.allocates = true)
      (handles : d.handles = c.handles) (here : c.counter? r.id = some old)
      (forward : old.advance? now = some (value, new))
      (there : ∀ id, d.counter? id = if id = r.id then some new else c.counter? id) :
      Turn r client c (.holding handle) (.answering (.ok value)) d (some (.advanced r.id value))
  | refused {handle} (allocates : r.allocates = true) (full : Full c r.id) :
      Turn r client c (.holding handle) (.answering (.error (.overflow r.id.text))) c none
  | returned {answer} :
      Turn r client c (.answering answer) .ended c (some (.returned client r answer))
  | rested : Turn r client c .ended .ended c none

theorem turn_step {r : Request} {client : Nat} {c : Cells} {stage : Stage} (now : Int)
    (held : ∀ handle, stage = .holding handle → c.handles.find? r.id = some handle) :
    Turn r client c stage (r.step client now c stage).1 (r.step client now c stage).2.1
      (r.step client now c stage).2.2 := by
  cases stage with
  | begun =>
    cases look : c.handles.find? r.id with
    | some handle =>
      simp only [Request.step, look]
      exact .found look
    | none =>
      have gone := Cells.find?_eq_none_iff.mp look
      cases r <;> simp only [Request.step, look]
      · exact .missed gone rfl
      · exact .guessed gone rfl
  | missing => exact .entered now
  | holding handle =>
    have found := held handle rfl
    cases r with
    | peek id start =>
      obtain ⟨counter, here, _⟩ := c.owned id handle found
      simp only [Request.step, here, Option.elim]
      exact .read rfl (by rw [Cells.counter?_of_handle found, here])
    | allocate id start =>
      simp only [Request.step]
      match forward : c.advance handle now with
      | (some value, d) =>
        obtain ⟨handles, old, new, here, step, there⟩ := Cells.counter?_advance found forward
        exact .advanced rfl handles here step there
      | (none, d) =>
        obtain ⟨rfl, full⟩ := Cells.advance_eq_none found forward
        exact .refused rfl full
  | answering answer => exact .returned
  | ended => exact .rested

/-- What holds of all clients at all times: a handle in hand is the handle of the inventory. -/
def Wired (s : State) : Prop :=
  ∀ client ∈ s.clients, ∀ handle, client.stage = .holding handle →
    s.cells.handles.find? client.request.id = some handle

/-- A move lets a client arrive, or it lets one take its turn, or nobody is there to take it. -/
theorem move_cases {s : State} (wired : Wired s) (m : Move) :
    (∃ request, m = .arrive request) ∨ s.move m = s ∨
      ∃ i client stage cells event, s.clients[i]? = some client ∧
        Turn client.request i s.cells client.stage stage cells event ∧
        s.move m =
          { cells, clients := s.clients.set i { client with stage },
            events := s.events ++ event.toList } := by
  cases m with
  | arrive request => exact .inl ⟨request, rfl⟩
  | go i now =>
    right
    cases here : s.clients[i]? with
    | none => exact .inl (by simp [State.move, here])
    | some client =>
      right
      refine ⟨i, client, _, _, _, here, turn_step now ?_, by simp [State.move, here]⟩
      exact wired client (List.mem_of_getElem? here)

theorem Turn.find? {r : Request} {client : Nat} {c d : Cells} {stage stage' : Stage}
    {event : Option Event} (turn : Turn r client c stage stage' d event) {id : InventoryId}
    {handle : Nat} (found : c.handles.find? id = some handle) :
    d.handles.find? id = some handle := by
  cases turn with
  | entered now => exact Cells.find?_enter found
  | advanced _ handles => rw [handles]; exact found
  | found | missed | guessed | read | refused | returned | rested => exact found

theorem Turn.holds {r : Request} {client : Nat} {c d : Cells} {stage : Stage} {handle : Nat}
    {event : Option Event} (turn : Turn r client c stage (.holding handle) d event) :
    d.handles.find? r.id = some handle := by
  cases turn with
  | found here => exact here
  | entered now => exact Cells.handle_enter ..

theorem wired_move {s : State} (wired : Wired s) (m : Move) : Wired (s.move m) := by
  rcases move_cases wired m with
    ⟨request, rfl⟩ | same | ⟨i, client, stage, cells, event, here, turn, eq⟩
  · intro client member handle holding
    rcases List.mem_append.mp member with old | new
    · exact wired client old handle holding
    · rw [List.mem_singleton.mp new] at holding
      cases holding
  · rw [same]; exact wired
  · rw [eq]
    intro other member handle holding
    rcases List.mem_or_eq_of_mem_set member with old | rfl
    · exact turn.find? (wired other old handle holding)
    · change stage = _ at holding
      subst holding
      exact turn.holds

theorem run_keeps {P : State → Prop} {A : Move → Prop}
    (keeps : ∀ s m, A m → P s → P (s.move m)) {s : State} (moves : List Move)
    (all : ∀ m ∈ moves, A m) (start : P s) : P (s.run moves) := by
  induction moves generalizing s with
  | nil => exact start
  | cons m moves ih =>
    exact ih (fun n member => all n (List.mem_cons_of_mem m member))
      (keeps s m (all m List.mem_cons_self) start)

/-- A client that holds the counter and is not interrupted advances it and returns, as one that has
the store for itself. -/
theorem run_holding {c : Cells} {m : Memory} {id : InventoryId} {start : UInt64} {handle : Nat}
    (now : Int) (events : List Event) (found : c.handles.find? id = some handle)
    (same : ∀ other, m.counters.find? other = c.counter? other) :
    let s := State.run ⟨c, [⟨.allocate id start, .holding handle⟩], events⟩ [.go 0 now, .go 0 now]
    let alone := Memory.advance id now m
    s.clients = [⟨.allocate id start, .ended⟩] ∧
      s.events.getLast? = some (.returned 0 (.allocate id start) alone.1) ∧
      ∀ other, s.cells.memory.counters.find? other = alone.2.counters.find? other := by
  simp only [State.run, List.foldl_cons, List.foldl_nil, State.move, List.getElem?_cons_zero,
    Request.step]
  match forward : c.advance handle now with
  | (some value, d) =>
    obtain ⟨-, old, new, here, step, there⟩ := Cells.counter?_advance found forward
    rw [Memory.advance_of_taken ((same id).trans here) step]
    simp [there, same, Cells.find?_memory, Memory.find?_put]
  | (none, d) =>
    obtain ⟨rfl, old, here, last⟩ := Cells.advance_eq_none found forward
    rw [Memory.advance_of_full ((same id).trans here) (Counter.advance?_of_full last)]
    simp [same, Cells.find?_memory]

/-- An allocation that nobody interrupts answers and leaves behind what the store in memory does. -/
theorem allocate_alone (c : Cells) (id : InventoryId) (start : UInt64) (now : Int) :
    let s := State.run { cells := c } (.arrive (.allocate id start) :: List.replicate 4 (.go 0 now))
    let alone := Memory.allocate id start now c.memory
    s.events.getLast? = some (.returned 0 (.allocate id start) alone.1) ∧
      ∀ other, s.cells.memory.counters.find? other = alone.2.counters.find? other := by
  cases look : c.handles.find? id with
  | some handle =>
    have found : (State.move { cells := c } (.arrive (.allocate id start))).move (.go 0 now) =
        ⟨c, [⟨.allocate id start, .holding handle⟩], [.began 0 (.allocate id start)]⟩ := by
      simp [State.move, Request.step, Request.id, look]
    have kept : c.memory.ensureCounter id start now = c.memory := by
      obtain ⟨counter, here, -⟩ := c.owned id handle look
      rw [Memory.ensureCounter, Cells.find?_memory, Cells.counter?_of_handle look, here]
    obtain ⟨clients, answer, counters⟩ :=
      run_holding now [.began 0 (.allocate id start)] look (Cells.find?_memory c)
    -- the fourth step finds the call at its end
    have rest (s : State) (ended : s.clients = [⟨.allocate id start, .ended⟩]) :
        (s.move (.go 0 now)).events = s.events ∧ (s.move (.go 0 now)).cells = s.cells := by
      simp [State.move, ended, Request.step]
    obtain ⟨events, cells⟩ := rest _ clients
    simp only [State.run, List.replicate, List.foldl_cons, List.foldl_nil, found, Memory.allocate,
      kept] at answer counters events cells ⊢
    rw [events, cells]
    exact ⟨answer, counters⟩
  | none =>
    have made : ((State.move { cells := c } (.arrive (.allocate id start))).move (.go 0 now)).move
        (.go 0 now) = ⟨(c.enter id start now).2, [⟨.allocate id start,
          .holding (c.enter id start now).1⟩], [.began 0 (.allocate id start)]⟩ := by
      simp [State.move, Request.step, Request.id, Request.start, look]
    have same : ∀ other, (c.memory.ensureCounter id start now).counters.find? other =
        (c.enter id start now).2.counter? other := by
      intro other
      have gone := Cells.find?_eq_none_iff.mp look
      rw [Memory.ensureCounter, Cells.find?_memory, Cells.counter?_enter, gone]
      by_cases eq : other = id <;> simp [eq, Cells.find?_memory, Memory.find?_put]
    obtain ⟨-, answer, counters⟩ := run_holding now [.began 0 (.allocate id start)]
      (Cells.handle_enter c id start now) same
    simp only [State.run, List.replicate, List.foldl_cons, List.foldl_nil, made, Memory.allocate]
      at answer counters ⊢
    exact ⟨answer, counters⟩

end Mintmark.Store.Shared
