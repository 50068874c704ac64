import Mathlib.Data.List.Nodup
import Mintmark.Proofs.Lists
import Mintmark.Proofs.Memory.Clients

/-!
# Interleaved allocations

For each inventory the values that its counter was advanced past are, in the order of the advances,
the numbers from its first value up; each is carried by one client or was given by one, so however
the calls interleave no value is given twice and none is left out. What a peek gives lies above
whatever had been given, and no lower than whatever had been peeked, before that peek began.

Both are invariants of single turns: `Accounted` ties the table, the values carried and the values
given together; `Ordered` bounds what is still to be answered from below by what was answered.
-/

namespace Mintmark.Store.Shared

def Request.takesFrom (r : Request) (id : InventoryId) : Bool := r.allocates && r.id == id

def Request.peeksAt (r : Request) (id : InventoryId) : Bool := !r.allocates && r.id == id

namespace Event

/-- The value that the counter of an inventory was advanced past. -/
def taken? (id : InventoryId) : Event → Option UInt64
  | advanced other value => if other = id then some value else none
  | began .. | returned .. => none

def given? (id : InventoryId) : Event → Option UInt64
  | returned _ r (.ok value) => if r.takesFrom id then some value else none
  | returned _ _ (.error _) | began .. | advanced .. => none

/-- The least value that a peek may give after this event. -/
def floor (id : InventoryId) : Event → Nat
  | returned _ r (.ok value) =>
    if r.takesFrom id then value.toNat + 1 else if r.peeksAt id then value.toNat else 0
  | returned _ _ (.error _) | began .. | advanced .. => 0

theorem floor_returned (id : InventoryId) (client : Nat) (r : Request)
    (answer : Except StoreError UInt64) :
    (returned client r answer).floor id = (returned 0 r answer).floor id := by
  cases answer <;> rfl

end Event

/-- The value that an allocation has taken and not returned yet. -/
def Client.carried? (id : InventoryId) (client : Client) : Option UInt64 :=
  match client.stage with
  | .answering answer => (Event.returned 0 client.request answer).given? id
  | _ => none

namespace State

def taken (s : State) (id : InventoryId) : List UInt64 := s.events.filterMap (Event.taken? id)

def given (s : State) (id : InventoryId) : List UInt64 := s.events.filterMap (Event.given? id)

def carried (s : State) (id : InventoryId) : List UInt64 := s.clients.filterMap (Client.carried? id)

end State

variable {id : InventoryId} {start : UInt64} {r : Request} {client : Nat} {c d : Cells}
  {stage stage' : Stage} {event : Option Event}

/-- A turn takes at most one value, which is the next one, and counts it. -/
theorem Turn.next_eq (turn : Turn r client c stage stage' d event) (id : InventoryId) :
    d.next id r.start = c.next id r.start + (event.bind (Event.taken? id)).toList.length := by
  cases turn with
  | entered now =>
    simp only [Cells.next, Cells.counter?_enter, Option.bind_none, Option.toList_none,
      List.length_nil, Nat.add_zero]
    split
    · next same => rw [same.1, same.2]; rfl
    · rfl
  | advanced _ _ here forward there =>
    simp only [Cells.next, there, Option.bind_some, Event.taken?]
    by_cases same : id = r.id
    · have := (Counter.toNat_next_of_advance? forward).2
      simp [same, here, this]
    · simp [same, Ne.symm same]
  | found | missed | guessed | read | refused | returned | rested => rfl

theorem Turn.version_eq (turn : Turn r client c stage stage' d event) (id : InventoryId) :
    d.version id = c.version id + (event.bind (Event.taken? id)).toList.length := by
  cases turn with
  | entered now =>
    simp only [Cells.version, Cells.counter?_enter, Option.bind_none, Option.toList_none,
      List.length_nil, Nat.add_zero]
    split
    · next same => rw [same.1, same.2]; rfl
    · rfl
  | advanced _ _ here forward there =>
    simp only [Cells.version, there, Option.bind_some, Event.taken?]
    by_cases same : id = r.id
    · have := Counter.toNat_version_of_advance? forward
      simp [same, here, this]
    · simp [same, Ne.symm same]
  | found | missed | guessed | read | refused | returned | rested => rfl

theorem Turn.toNat_of_taken (turn : Turn r client c stage stage' d event) (start : UInt64)
    {value : UInt64} (taken : event.bind (Event.taken? id) = some value) :
    value.toNat = c.next id start := by
  cases turn with
  | advanced _ _ here forward =>
    simp only [Option.bind_some, Event.taken?, Option.ite_none_right_eq_some,
      Option.some.injEq] at taken
    obtain ⟨same, eq⟩ := taken
    rw [← eq, (Counter.toNat_next_of_advance? forward).1, Cells.next, ← same, here]
    rfl
  | found | missed | guessed | entered | read | refused | returned | rested => cases taken

/-- A value that is taken is carried until it is given. -/
theorem Turn.carried_eq (turn : Turn r client c stage stage' d event) (id : InventoryId) :
    (event.bind (Event.given? id)).toList ++ (Client.carried? id ⟨r, stage'⟩).toList =
      (Client.carried? id ⟨r, stage⟩).toList ++ (event.bind (Event.taken? id)).toList := by
  cases turn with
  | advanced allocates =>
    simp [Client.carried?, Event.given?, Event.taken?, Request.takesFrom, allocates]
  | guessed _ peeks | read peeks =>
    simp [Client.carried?, Event.given?, Request.takesFrom, peeks]
  | @returned answer =>
    cases answer <;> simp [Client.carried?, Event.given?, Event.taken?]
  | found | missed | entered | refused | rested => simp [Client.carried?, Event.given?]

/-- What a call is about to answer is bounded by the next value, and what it has answered was. -/
theorem Turn.answer_next (turn : Turn r client c stage stage' d event) {value : UInt64}
    (answering : stage' = .answering (.ok value)) :
    if r.allocates then value.toNat + 1 = d.next r.id r.start
    else value.toNat = d.next r.id r.start := by
  cases turn with
  | guessed gone peeks =>
    cases answering
    simp [peeks, Cells.next, gone]
  | read peeks here =>
    cases answering
    simp [peeks, Cells.next, here]
  | advanced allocates _ _ forward there =>
    cases answering
    obtain ⟨eq, forward⟩ := Counter.toNat_next_of_advance? forward
    simp [allocates, Cells.next, there, forward, eq]
  | found | missed | entered | refused | returned | rested => cases answering

theorem Turn.full (turn : Turn r client c stage stage' d event) (full : Full c id) : Full d id := by
  obtain ⟨counter, here, last⟩ := full
  cases turn with
  | entered now =>
    refine ⟨counter, ?_, last⟩
    rw [Cells.counter?_enter, if_neg, here]
    rintro ⟨rfl, none⟩
    rw [none] at here
    cases here
  | advanced _ _ found forward there =>
    refine ⟨counter, ?_, last⟩
    rw [there, if_neg, here]
    rintro rfl
    rw [here] at found
    cases found
    rw [Counter.advance?_of_full last] at forward
    cases forward
  | found | missed | guessed | read | refused | returned | rested => exact ⟨counter, here, last⟩

theorem Turn.full_of_error {error : StoreError}
    (turn : Turn r client c stage (.answering (.error error)) d event) : Full d r.id := by
  cases turn with
  | refused _ full => exact full

/-- The event of a turn, if any, is an advance or the end of the call. -/
theorem Turn.event_cases (turn : Turn r client c stage stage' d event) :
    event = none ∨ (∃ id value, event = some (.advanced id value)) ∨
      ∃ answer, stage = .answering answer ∧ stage' = .ended ∧ d = c ∧
        event = some (.returned client r answer) := by
  cases turn with
  | advanced => exact .inr (.inl ⟨_, _, rfl⟩)
  | returned => exact .inr (.inr ⟨_, rfl, rfl, rfl, rfl⟩)
  | found | missed | guessed | entered | read | refused | rested => exact .inl rfl

/-- How the counter of an inventory, the values carried and the values given stand to each other,
counted from the next value and the version at the start. -/
structure Accounted (id : InventoryId) (start : UInt64) (first version : Nat) (s : State) :
    Prop where
  next_eq : s.cells.next id start = first + (s.taken id).length
  version_eq : s.cells.version id = version + (s.taken id).length
  taken_eq : (s.taken id).map (·.toNat) = List.range' first (s.taken id).length
  settled : (s.given id ++ s.carried id).Perm (s.taken id)

theorem accounted_turn {s : State} {first version i : Nat} {client : Client} {stage : Stage}
    {cells : Cells} {event : Option Event}
    (accounted : Accounted id start first version s) (here : s.clients[i]? = some client)
    (agreed : client.request.start = start)
    (turn : Turn client.request i s.cells client.stage stage cells event) :
    Accounted id start first version
      { cells, clients := s.clients.set i { client with stage },
        events := s.events ++ event.toList } := by
  subst agreed
  obtain ⟨request, old⟩ := client
  have append (pick : Event → Option UInt64) := filterMap_append_option pick s.events event
  have last : s.cells.next id request.start =
      first + (s.events.filterMap (Event.taken? id)).length := accounted.next_eq
  have counted : s.cells.version id =
      version + (s.events.filterMap (Event.taken? id)).length := accounted.version_eq
  have carried := turn.carried_eq id
  refine ⟨?_, ?_, ?_, ?_⟩
  · rw [turn.next_eq id, last]
    simp only [State.taken, append, List.length_append]
    omega
  · rw [turn.version_eq id, counted]
    simp only [State.taken, append, List.length_append]
    omega
  · simp only [State.taken, append, List.length_append, List.map_append]
    have before := accounted.taken_eq
    simp only [State.taken] at before
    cases took : event.bind (Event.taken? id) with
    | none => simpa using before
    | some value =>
      have eq := turn.toNat_of_taken request.start took
      simp only [Option.toList_some, List.length_cons, List.length_nil, List.map_cons, List.map_nil,
        Nat.zero_add, List.range'_concat, before, eq, last, Nat.one_mul]
  · obtain ⟨rest, before, after⟩ := filterMap_set_perm (Client.carried? id) here
    have settled := accounted.settled
    simp only [State.taken, State.given, State.carried, append] at settled ⊢
    rw [List.perm_iff_count] at settled before ⊢
    intro value
    have now := (after { request, stage }).count_eq value
    have was := before value
    have balance := congrArg (List.count value) carried
    have total := settled value
    simp only [List.count_append] at *
    omega

theorem accounted_arrive {s : State} {first version : Nat} (request : Request)
    (accounted : Accounted id start first version s) :
    Accounted id start first version (s.move (.arrive request)) := by
  have taken : (s.move (.arrive request)).taken id = s.taken id := by
    simp [State.move, State.taken, Event.taken?]
  refine ⟨?_, ?_, ?_, ?_⟩
  · rw [taken]; exact accounted.next_eq
  · rw [taken]; exact accounted.version_eq
  · rw [taken]; exact accounted.taken_eq
  · rw [taken]
    simpa [State.move, State.given, State.carried, List.filterMap_cons, Event.given?,
      Client.carried?] using accounted.settled

/-- How what is answered stands to what was answered before it was asked. -/
structure Ordered (id : InventoryId) (start : UInt64) (s : State) : Prop where
  behind : ∀ e ∈ s.events, e.floor id ≤ s.cells.next id start
  ahead : ∀ client ∈ s.clients, ∀ answer, client.stage = .answering answer →
    (Event.returned 0 client.request answer).floor id ≤ s.cells.next id start
  pending : ∀ i client value, s.clients[i]? = some client → client.request.peeksAt id = true →
    client.stage = .answering (.ok value) →
    ∀ e, [e, .began i client.request].Sublist s.events → e.floor id ≤ value.toNat
  settled : ∀ i r value, r.peeksAt id = true →
    ∀ e, [e, .began i r, .returned i r (.ok value)].Sublist s.events → e.floor id ≤ value.toNat

theorem Turn.floor_le (turn : Turn r client c stage stage' d event)
    {answer : Except StoreError UInt64} (answering : stage' = .answering answer) :
    (Event.returned 0 r answer).floor id ≤ d.next id r.start := by
  cases answer with
  | error => exact Nat.zero_le _
  | ok value =>
    have next := turn.answer_next answering
    simp only [Event.floor, Request.takesFrom, Request.peeksAt]
    by_cases same : r.id = id
    · subst same
      by_cases allocates : r.allocates = true <;> simp [allocates] at next ⊢ <;> omega
    · simp [same]

theorem ordered_turn {s : State} {i : Nat} {client : Client} {stage : Stage} {cells : Cells}
    {event : Option Event} (ordered : Ordered id start s) (here : s.clients[i]? = some client)
    (agreed : client.request.start = start)
    (turn : Turn client.request i s.cells client.stage stage cells event) :
    Ordered id start
      { cells, clients := s.clients.set i { client with stage },
        events := s.events ++ event.toList } := by
  subst agreed
  have grows : s.cells.next id client.request.start ≤ cells.next id client.request.start := by
    rw [turn.next_eq id]
    exact Nat.le_add_right ..
  -- the only event of a turn that matters is the return, which no other call can make
  have new (front : List Event) (e : Event)
      (sub : (front ++ [e]).Sublist (s.events ++ event.toList)) :
      (front ++ [e]).Sublist s.events ∨ event = some e ∧ front.Sublist s.events := by
    cases event with
    | none => exact .inl (by simpa using sub)
    | some x =>
      rcases concat_sublist_concat front sub with old | ⟨rfl, before⟩
      · exact .inl old
      · exact .inr ⟨rfl, before⟩
  refine ⟨?_, ?_, ?_, ?_⟩
  · intro e member
    refine Nat.le_trans ?_ grows
    rcases List.mem_append.mp member with old | fresh
    · exact ordered.behind e old
    · rcases turn.event_cases with rfl | ⟨other, value, rfl⟩ | ⟨answer, was, -, -, rfl⟩
      · cases fresh
      · rw [Option.toList_some, List.mem_singleton] at fresh
        subst fresh
        exact Nat.zero_le _
      · rw [Option.toList_some, List.mem_singleton] at fresh
        subst fresh
        rw [Event.floor_returned]
        exact ordered.ahead client (List.mem_of_getElem? here) answer was
  · intro other member answer answering
    rcases List.mem_or_eq_of_mem_set member with old | rfl
    · exact Nat.le_trans (ordered.ahead other old answer answering) grows
    · exact turn.floor_le answering
  · intro j other value there peeks answering e sub
    have unbegun : event ≠ some (.began j other.request) := by
      rcases turn.event_cases with rfl | ⟨id', value', rfl⟩ | ⟨answer, -, -, -, rfl⟩ <;> simp
    have before : [e, .began j other.request].Sublist s.events :=
      (new [e] _ sub).resolve_right fun h => unbegun h.1
    by_cases same : i = j
    · subst same
      obtain ⟨bound, _⟩ := List.getElem?_eq_some_iff.mp here
      rw [List.getElem?_set_self bound] at there
      cases there
      have next := turn.answer_next answering
      simp only [Request.peeksAt, Bool.and_eq_true, Bool.not_eq_true', beq_iff_eq] at peeks
      rw [peeks.1, if_neg (by simp), peeks.2] at next
      rw [next]
      exact Nat.le_trans (ordered.behind e (before.subset (by simp))) grows
    · rw [List.getElem?_set_ne same] at there
      exact ordered.pending j other value there peeks answering e before
  · intro j r value peeks e sub
    rcases new [e, .began j r] _ sub with old | ⟨fresh, before⟩
    · exact ordered.settled j r value peeks e old
    · rcases turn.event_cases with rfl | ⟨id', value', rfl⟩ | ⟨answer, was, -, -, rfl⟩
      · cases fresh
      · cases fresh
      · cases fresh
        exact ordered.pending i client value here peeks was e before

theorem ordered_arrive {s : State} (request : Request) (ordered : Ordered id start s) :
    Ordered id start (s.move (.arrive request)) := by
  refine ⟨?_, ?_, ?_, ?_⟩
  · intro e member
    rcases List.mem_append.mp member with old | fresh
    · exact ordered.behind e old
    · rw [List.mem_singleton.mp fresh]
      exact Nat.zero_le _
  · intro other member answer answering
    rcases List.mem_append.mp member with old | fresh
    · exact ordered.ahead other old answer answering
    · rw [List.mem_singleton.mp fresh] at answering
      cases answering
  · intro j other value there peeks answering e sub
    by_cases old : j < s.clients.length
    · simp only [State.move, List.getElem?_append_left old] at there
      rcases concat_sublist_concat [e] sub with before | ⟨same, -⟩
      · exact ordered.pending j other value there peeks answering e before
      · cases same
        exact absurd old (Nat.lt_irrefl _)
    · simp only [State.move, List.getElem?_append_right (Nat.le_of_not_lt old)] at there
      rw [List.mem_singleton.mp (List.mem_of_getElem? there)] at answering
      cases answering
  · intro j r value peeks e sub
    rcases concat_sublist_concat [e, .began j r] sub with before | ⟨same, -⟩
    · exact ordered.settled j r value peeks e before
    · cases same

/-- A call fails only where the counter has no value left. -/
structure Spent (s : State) : Prop where
  failing : ∀ client ∈ s.clients, ∀ error, client.stage = .answering (.error error) →
    Full s.cells client.request.id
  failed : ∀ i r error, .returned i r (.error error) ∈ s.events → Full s.cells r.id

theorem spent_turn {s : State} {i : Nat} {client : Client} {stage : Stage} {cells : Cells}
    {event : Option Event} (spent : Spent s) (here : s.clients[i]? = some client)
    (turn : Turn client.request i s.cells client.stage stage cells event) :
    Spent { cells, clients := s.clients.set i { client with stage },
            events := s.events ++ event.toList } := by
  constructor
  · intro other member error answering
    rcases List.mem_or_eq_of_mem_set member with old | rfl
    · exact turn.full (spent.failing other old error answering)
    · change stage = _ at answering
      subst answering
      exact turn.full_of_error
  · intro j r error member
    rcases List.mem_append.mp member with old | fresh
    · exact turn.full (spent.failed j r error old)
    · rcases turn.event_cases with rfl | ⟨id', value', rfl⟩ | ⟨answer, was, -, rfl, rfl⟩
      · cases fresh
      · simp at fresh
      · simp only [Option.toList_some, List.mem_singleton, Event.returned.injEq] at fresh
        obtain ⟨rfl, rfl, rfl⟩ := fresh
        exact spent.failing client (List.mem_of_getElem? here) error was

theorem spent_arrive {s : State} (request : Request) (spent : Spent s) :
    Spent (s.move (.arrive request)) := by
  constructor
  · intro other member error answering
    rcases List.mem_append.mp member with old | fresh
    · exact spent.failing other old error answering
    · rw [List.mem_singleton.mp fresh] at answering
      cases answering
  · intro j r error member
    rcases List.mem_append.mp member with old | fresh
    · exact spent.failed j r error old
    · cases List.mem_singleton.mp fresh

/-- All that is kept along a run in which everybody goes by one start value. -/
structure Kept (id : InventoryId) (start : UInt64) (first version : Nat) (s : State) : Prop where
  wired : Wired s
  agreed : ∀ client ∈ s.clients, client.request.start = start
  accounted : Accounted id start first version s
  ordered : Ordered id start s
  spent : Spent s

theorem kept_move {s : State} {first version : Nat} (m : Move)
    (agreed : ∀ request, m = .arrive request → request.start = start)
    (kept : Kept id start first version s) : Kept id start first version (s.move m) := by
  have wired := wired_move kept.wired m
  rcases move_cases kept.wired m with
    ⟨request, rfl⟩ | same | ⟨i, client, stage, cells, event, here, turn, eq⟩
  · refine ⟨wired, ?_, accounted_arrive request kept.accounted, ordered_arrive request kept.ordered,
      spent_arrive request kept.spent⟩
    intro client member
    rcases List.mem_append.mp member with old | new
    · exact kept.agreed client old
    · rw [List.mem_singleton.mp new]
      exact agreed request rfl
  · rw [same]; exact kept
  · have start := kept.agreed client (List.mem_of_getElem? here)
    rw [eq] at wired ⊢
    refine ⟨wired, ?_, accounted_turn kept.accounted here start turn,
      ordered_turn kept.ordered here start turn, spent_turn kept.spent here turn⟩
    intro other member
    rcases List.mem_or_eq_of_mem_set member with old | rfl
    · exact kept.agreed other old
    · exact start

theorem kept_run {first version : Nat} {s : State} (moves : List Move)
    (agreed : ∀ request, .arrive request ∈ moves → request.start = start)
    (kept : Kept id start first version s) : Kept id start first version (s.run moves) := by
  refine run_keeps (P := Kept id start first version)
    (A := fun m => ∀ request, m = .arrive request → request.start = start)
    (fun _ m fair kept => kept_move m fair kept) moves ?_ kept
  rintro m member request rfl
  exact agreed request member

theorem kept_start (c : Cells) (id : InventoryId) (start : UInt64) :
    Kept id start (c.next id start) (c.version id) { cells := c } := by
  refine ⟨nofun, ?_, ⟨rfl, rfl, rfl, .nil⟩, ⟨?_, ?_, ?_, ?_⟩, ⟨?_, ?_⟩⟩
  · intro client member
    cases member
  · intro e member
    cases member
  · intro client member
    cases member
  · intro i client value here
    cases here
  · intro i r value _ e sub
    cases sub
  · intro client member
    cases member
  · intro i r error member
    cases member

/-- The values given and carried are the numbers from the first value up, each once. -/
theorem perm_range {first version : Nat} {s : State} (kept : Kept id start first version s) :
    ((s.given id ++ s.carried id).map (·.toNat)).Perm (List.range' first (s.taken id).length) := by
  rw [← kept.accounted.taken_eq]
  exact kept.accounted.settled.map _

theorem nodup_given {first version : Nat} {s : State} (kept : Kept id start first version s) :
    (s.given id).Nodup := by
  have distinct : (s.given id ++ s.carried id).Nodup :=
    List.Nodup.of_map _ ((perm_range kept).nodup_iff.mpr List.nodup_range')
  exact (List.nodup_append.mp distinct).1

theorem carried_eq_nil {s : State} (idle : s.Idle) (id : InventoryId) : s.carried id = [] := by
  rw [State.carried, List.filterMap_eq_nil_iff]
  intro client member
  rw [Client.carried?, idle client member]

theorem peeksAt_peek (id : InventoryId) (start : UInt64) :
    (Request.peek id start).peeksAt id = true := by
  simp [Request.peeksAt, Request.id, Request.allocates]

/-- Whatever the schedule, and whatever cells it starts from: the values given and carried are the
numbers from the first value up, each once; the counter ends behind the last of them and has
counted each; where no counter is full nobody fails; and no peek falls behind what was answered
before it began. -/
theorem schedule_gives_each_value_once (c : Cells) (start : UInt64) (moves : List Move)
    (agreed : ∀ request, .arrive request ∈ moves → request.start = start) (id : InventoryId) :
    let s := State.run { cells := c } moves
    let first := (c.memory.peek id start).toNat
    let count := (s.taken id).length
    (s.given id).Nodup ∧
    ((s.given id ++ s.carried id).map (·.toNat)).Perm (List.range' first count) ∧
    (s.Idle → ((s.given id).map (·.toNat)).Perm (List.range' first count)) ∧
    (s.cells.memory.peek id start).toNat = first + count ∧
    s.cells.memory.version id = c.memory.version id + count ∧
    (0 < count → s.cells.memory.counters.contains id = true) ∧
    ((∀ other, ¬ Full s.cells other) →
      ∀ i r answer, .returned i r answer ∈ s.events → ∃ value, answer = .ok value) ∧
    (∀ i j value seen,
      [.returned i (.allocate id start) (.ok value), .began j (.peek id start),
        .returned j (.peek id start) (.ok seen)].Sublist s.events → value < seen) ∧
    (∀ i j earlier seen,
      [.returned i (.peek id start) (.ok earlier), .began j (.peek id start),
        .returned j (.peek id start) (.ok seen)].Sublist s.events → earlier ≤ seen) := by
  intro s first count
  have kept : Kept id start (c.next id start) (c.version id) s :=
    kept_run moves agreed (kept_start c id start)
  have start_eq : first = c.next id start := Cells.toNat_peek_memory c id start
  have range : ((s.given id ++ s.carried id).map (·.toNat)).Perm (List.range' first count) := by
    rw [start_eq]
    exact perm_range kept
  refine ⟨nodup_given kept, range, ?_, ?_, ?_, ?_, ?_, ?_, ?_⟩
  · intro idle
    simpa [carried_eq_nil idle] using range
  · rw [Cells.toNat_peek_memory, start_eq]
    exact kept.accounted.next_eq
  · simp only [Memory.version, Cells.find?_memory]
    exact kept.accounted.version_eq
  · intro some
    have version := kept.accounted.version_eq
    rw [Table.contains, Cells.find?_memory]
    cases here : s.cells.counter? id with
    | some counter => rfl
    | none =>
      simp only [Cells.version, here, Option.elim] at version
      omega
  · intro room i r answer member
    cases answer with
    | ok value => exact ⟨value, rfl⟩
    | error error => exact absurd (kept.spent.failed i r error member) (room r.id)
  · intro i j value seen sub
    have bound := kept.ordered.settled j (.peek id start) seen (peeksAt_peek id start) _ sub
    have above : value.toNat + 1 ≤ seen.toNat := by
      simpa [Event.floor, Request.takesFrom, Request.id, Request.allocates] using bound
    exact UInt64.lt_iff_toNat_lt.mpr above
  · intro i j earlier seen sub
    have bound := kept.ordered.settled j (.peek id start) seen (peeksAt_peek id start) _ sub
    have above : earlier.toNat ≤ seen.toNat := by
      simpa [Event.floor, Request.takesFrom, Request.peeksAt, Request.id, Request.allocates]
        using bound
    exact UInt64.le_iff_toNat_le.mpr above

def stock : InventoryId := ⟨"stock", by decide⟩

/-- Two clients look before either has made the counter, and a third peeks between their advances. -/
def race : List Move :=
  [.arrive (.allocate stock 5), .arrive (.allocate stock 5), .go 0 0, .go 1 0, .go 0 1, .go 1 2,
    .go 1 3, .go 1 4, .arrive (.peek stock 5), .go 2 5, .go 2 6, .go 2 7, .go 0 8, .go 0 9]

theorem race_gives_five_and_six :
    (∀ request, .arrive request ∈ race → request.start = 5) ∧
      (State.run {} race).Idle ∧
      (((State.run {} race).given stock).map (·.toNat)).Perm [5, 6] ∧
      [.returned 1 (.allocate stock 5) (.ok 5), .began 2 (.peek stock 5),
        .returned 2 (.peek stock 5) (.ok 6)].Sublist (State.run {} race).events ∧
      (5 : UInt64) < 6 := by
  have agreed : ∀ request, .arrive request ∈ race → request.start = 5 := by
    simp [race, Request.start]
  have idle : (State.run {} race).Idle := by
    have clients : (State.run {} race).clients = [⟨.allocate stock 5, .ended⟩,
      ⟨.allocate stock 5, .ended⟩, ⟨.peek stock 5, .ended⟩] := rfl
    simp [State.Idle, clients]
  have peeked : [.returned 1 (.allocate stock 5) (.ok 5), .began 2 (.peek stock 5),
      .returned 2 (.peek stock 5) (.ok 6)].Sublist (State.run {} race).events :=
    List.IsInfix.sublist
      ⟨[.began 0 (.allocate stock 5), .began 1 (.allocate stock 5), .advanced stock 5],
        [.advanced stock 6, .returned 0 (.allocate stock 5) (.ok 6)], rfl⟩
  obtain ⟨-, -, all, -, -, -, -, above, -⟩ :=
    schedule_gives_each_value_once .empty 5 race agreed stock
  exact ⟨agreed, idle, all idle, peeked, above 1 2 5 6 peeked⟩

end Mintmark.Store.Shared
