import Mintmark.Proofs.Format.Inquiry
import Mintmark.Table

/-!
# A cache that is shared

Any number of clients ask one cache for rules, each on the way through some work of its own. A call
takes up to three steps: the rule is looked up, compiled if it was not there, and kept if there is
room. Between two steps of one client others may take theirs; a schedule is a list of moves of which
each lets a client arrive or take one step.

What a step can do is said once, by `Turn`. A cache grows at its front and nothing in it changes, so
what a client has found it may go on with; and as every entry is what compiling gives, no client can
tell from an answer what the others have done.
-/

namespace Mintmark.Format

namespace RuleCache

/-- There is one entry for each key, and kinds that ignore their specifier have one key each. -/
structure Orderly (cache : RuleCache) : Prop where
  bounded : cache.size ≤ capacity
  distinct : (cache.entries.map (·.1)).Nodup
  shared : ∀ e ∈ cache.entries, e.1.kind.ignoresFormat = true → e.1.specifier = ""

/-- All that is in the first cache is in the second. -/
structure Grows (c d : RuleCache) : Prop where
  entries : c.entries <:+ d.entries
  found : ∀ {key rule}, c.find? key = some rule → d.find? key = some rule

namespace Grows

variable {c d e : RuleCache}

theorem refl (c : RuleCache) : Grows c c := ⟨List.suffix_rfl, fun found => found⟩

theorem trans (first : Grows c d) (second : Grows d e) : Grows c e :=
  ⟨first.entries.trans second.entries, fun found => second.found (first.found found)⟩

end Grows

section

variable {cache : RuleCache} {key : RuleKey} {rule : Rule} (sound : key.compile = .ok rule)

theorem insert_cases (cache : RuleCache) :
    (cache.size < capacity ∧ cache.find? key = none ∧
        (cache.insert key rule sound).entries = (key, rule) :: cache.entries) ∨
      ((cache.size < capacity → cache.find? key ≠ none) ∧ cache.insert key rule sound = cache) := by
  unfold insert
  split
  · next room => exact .inl ⟨room.1, room.2, rfl⟩
  · next full => exact .inr ⟨fun room absent => full ⟨room, absent⟩, rfl⟩

theorem grows_insert : Grows cache (cache.insert key rule sound) := by
  rcases insert_cases sound cache with ⟨-, absent, entries⟩ | ⟨-, same⟩
  · constructor
    · rw [entries]
      exact List.suffix_cons ..
    · intro other found here
      rw [find?, entries, Table.lookup_cons_eq, if_neg]
      · exact here
      · rintro rfl
        rw [absent] at here
        cases here
  · rw [same]
    exact .refl cache

/-- With room for it the rule is there afterwards, whether it was kept now or before. -/
theorem find?_insert (room : cache.size < capacity) :
    (cache.insert key rule sound).find? key = some rule := by
  rcases insert_cases sound cache with ⟨-, -, entries⟩ | ⟨there, same⟩
  · rw [find?, entries, Table.lookup_cons_eq, if_pos rfl]
  · obtain ⟨other, found⟩ := Option.ne_none_iff_exists'.mp (there room)
    have compiled := compile_of_find? found
    rw [sound] at compiled
    cases compiled
    rw [same, found]

theorem orderly_insert (orderly : cache.Orderly)
    (shared : key.kind.ignoresFormat = true → key.specifier = "") :
    (cache.insert key rule sound).Orderly := by
  rcases insert_cases sound cache with ⟨room, absent, entries⟩ | ⟨-, same⟩
  · constructor
    · rw [size, entries, List.length_cons]
      exact room
    · rw [entries, List.map_cons, List.nodup_cons]
      refine ⟨?_, orderly.distinct⟩
      intro member
      obtain ⟨⟨other, found⟩, here, rfl⟩ := List.mem_map.mp member
      have := List.lookup_eq_none_iff.mp absent (other, found) here
      simp at this
    · rw [entries, List.forall_mem_cons]
      exact ⟨shared, orderly.shared⟩
  · rw [same]
    exact orderly

end

end RuleCache

theorem RuleKey.specifier_of {kind : Kind} {specifier : String}
    (ignores : (RuleKey.of kind specifier).kind.ignoresFormat = true) :
    (RuleKey.of kind specifier).specifier = "" :=
  if_pos ignores

/-- The number of steps that are enough for the work, whatever others do meanwhile. -/
def Inquiry.turns {α : Type} : Inquiry α → Nat
  | done _ => 0
  | ask kind specifier next => 3 + (next (Rule.compile kind specifier)).turns

namespace Sharing

variable {α : Type}

/-- How far a client has come with its work. -/
inductive Stage (α : Type) where
  /-- the next rule is to be looked up, unless nothing is left to do -/
  | looking (work : Inquiry α)
  /-- the rule was not there -/
  | missing (kind : Kind) (specifier : String) (next : Except Problem Rule → Inquiry α)
  /-- the rule has been compiled and is to be kept -/
  | keeping (kind : Kind) (specifier : String) (next : Except Problem Rule → Inquiry α) (rule : Rule)
      (sound : (RuleKey.of kind specifier).compile = .ok rule)

/-- A call for a rule, with the answer to it. -/
structure Answered where
  kind : Kind
  specifier : String
  answer : Except Problem Rule

namespace Stage

/-- What the work comes to from here on if each rule is compiled when it is asked for. -/
def value : Stage α → α
  | looking work => work.value
  | missing kind specifier next | keeping kind specifier next _ _ =>
    (next (Rule.compile kind specifier)).value

/-- The number of steps that are enough from here on. -/
def left : Stage α → Nat
  | looking work => work.turns
  | missing kind specifier next => 2 + (next (Rule.compile kind specifier)).turns
  | keeping kind specifier next _ _ => 1 + (next (Rule.compile kind specifier)).turns

/-- The next step: where it gets to, what becomes of the cache, and the call that it answers. -/
def step : Stage α → RuleCache → Stage α × RuleCache × Option Answered
  | looking (.done a), cache => (looking (.done a), cache, none)
  | looking (.ask kind specifier next), cache =>
    match cache.find? (.of kind specifier) with
    | some rule => (looking (next (.ok rule)), cache, some ⟨kind, specifier, .ok rule⟩)
    | none => (missing kind specifier next, cache, none)
  | missing kind specifier next, cache =>
    match compiled : (RuleKey.of kind specifier).compile with
    | .ok rule => (keeping kind specifier next rule compiled, cache, none)
    | .error problem =>
      (looking (next (.error problem)), cache, some ⟨kind, specifier, .error problem⟩)
  | keeping kind specifier next rule sound, cache =>
    (looking (next (.ok rule)), cache.insert (.of kind specifier) rule sound,
      some ⟨kind, specifier, .ok rule⟩)

end Stage

structure Client (α : Type) where
  work : Inquiry α
  stage : Stage α := .looking work

structure State (α : Type) where
  cache : RuleCache := .empty
  clients : List (Client α) := []
  answers : List Answered := []

inductive Move (α : Type) where
  | arrive (work : Inquiry α)
  /-- one step of a client -/
  | go (client : Nat)

/-- Whether the move is a step of this client. -/
def Move.lets (i : Nat) : Move α → Bool
  | arrive _ => false
  | go client => client == i

namespace State

def move (s : State α) : Move α → State α
  | .arrive work => { s with clients := s.clients ++ [{ work }] }
  | .go i =>
    match s.clients[i]? with
    | none => s
    | some client =>
      match client.stage.step s.cache with
      | (stage, cache, answered) =>
        { cache
          clients := s.clients.set i { client with stage }
          answers := s.answers ++ answered.toList }

def run (s : State α) (moves : List (Move α)) : State α := moves.foldl move s

end State

inductive Turn (c : RuleCache) : Stage α → Stage α → RuleCache → Option Answered → Prop where
  | rested {a} : Turn c (.looking (.done a)) (.looking (.done a)) c none
  | found {kind specifier next rule} (here : c.find? (.of kind specifier) = some rule) :
      Turn c (.looking (.ask kind specifier next)) (.looking (next (.ok rule))) c
        (some ⟨kind, specifier, .ok rule⟩)
  | missed {kind specifier next} (gone : c.find? (.of kind specifier) = none) :
      Turn c (.looking (.ask kind specifier next)) (.missing kind specifier next) c none
  | compiled {kind specifier next rule} (sound : (RuleKey.of kind specifier).compile = .ok rule) :
      Turn c (.missing kind specifier next) (.keeping kind specifier next rule sound) c none
  | failed {kind specifier next problem}
      (fails : (RuleKey.of kind specifier).compile = .error problem) :
      Turn c (.missing kind specifier next) (.looking (next (.error problem))) c
        (some ⟨kind, specifier, .error problem⟩)
  | kept {kind specifier next rule sound} :
      Turn c (.keeping kind specifier next rule sound) (.looking (next (.ok rule)))
        (c.insert (.of kind specifier) rule sound) (some ⟨kind, specifier, .ok rule⟩)

theorem turn_step (stage : Stage α) (c : RuleCache) :
    Turn c stage (stage.step c).1 (stage.step c).2.1 (stage.step c).2.2 := by
  cases stage with
  | looking work =>
    cases work with
    | done a => exact .rested
    | ask kind specifier next =>
      cases look : c.find? (.of kind specifier) with
      | some rule =>
        simp only [Stage.step, look]
        exact .found look
      | none =>
        simp only [Stage.step, look]
        exact .missed look
  | missing kind specifier next =>
    simp only [Stage.step]
    split
    · next rule compiled => exact .compiled compiled
    · next problem fails => exact .failed fails
  | keeping kind specifier next rule sound => exact .kept

section

variable {c d : RuleCache} {stage stage' : Stage α} {answered : Option Answered}

theorem Turn.faithful (turn : Turn c stage stage' d answered) :
    ∀ e ∈ answered, e.answer = Rule.compile e.kind e.specifier := by
  cases turn with
  | rested | missed | compiled =>
    intro e member
    cases member
  | found here =>
    rintro _ ⟨⟩
    exact (RuleCache.compile_of_find? here).symm.trans (RuleKey.compile_of ..)
  | failed fails =>
    rintro _ ⟨⟩
    exact fails.symm.trans (RuleKey.compile_of ..)
  | @kept _ _ _ _ sound =>
    rintro _ ⟨⟩
    exact sound.symm.trans (RuleKey.compile_of ..)

theorem Turn.value_eq (turn : Turn c stage stage' d answered) : stage'.value = stage.value := by
  have faithful := turn.faithful
  cases turn with
  | rested | missed | compiled => rfl
  | found | failed | kept =>
    simp only [Stage.value, Inquiry.value, ← faithful _ rfl]

theorem Turn.left_lt (turn : Turn c stage stage' d answered) :
    stage'.left < stage.left ∨ stage.left = 0 ∧ stage' = stage := by
  have faithful := turn.faithful
  cases turn with
  | rested => exact .inr ⟨rfl, rfl⟩
  | missed | compiled =>
    left
    simp only [Stage.left, Inquiry.turns]
    omega
  | found | failed | kept =>
    left
    simp only [Stage.left, Inquiry.turns, ← faithful _ rfl]
    omega

theorem Turn.grows (turn : Turn c stage stage' d answered) : c.Grows d := by
  cases turn with
  | kept => exact RuleCache.grows_insert _
  | rested | found | missed | compiled | failed => exact .refl c

theorem Turn.orderly (turn : Turn c stage stage' d answered) (orderly : c.Orderly) :
    d.Orderly := by
  cases turn with
  | kept => exact RuleCache.orderly_insert _ orderly RuleKey.specifier_of
  | rested | found | missed | compiled | failed => exact orderly

end

/-- A move lets a client arrive, or it lets one take its turn, or nobody is there to take it. -/
theorem move_cases (s : State α) (m : Move α) :
    (∃ work, m = .arrive work) ∨
      (∃ i, m = .go i ∧ s.clients[i]? = none ∧ s.move m = s) ∨
      ∃ i client stage cache answered, m = .go i ∧ s.clients[i]? = some client ∧
        Turn s.cache client.stage stage cache answered ∧
        s.move m =
          { cache, clients := s.clients.set i { client with stage },
            answers := s.answers ++ answered.toList } := by
  cases m with
  | arrive work => exact .inl ⟨work, rfl⟩
  | go i =>
    right
    cases here : s.clients[i]? with
    | none => exact .inl ⟨i, rfl, here, by simp [State.move, here]⟩
    | some client =>
      exact .inr ⟨i, client, _, _, _, rfl, here, turn_step client.stage s.cache,
        by simp [State.move, here]⟩

/-- What holds at all times: calls were answered as compiling answers, clients are on the way to
what their work comes to, and the cache is in order. -/
structure Kept (s : State α) : Prop where
  faithful : ∀ e ∈ s.answers, e.answer = Rule.compile e.kind e.specifier
  bound : ∀ client ∈ s.clients, client.stage.value = client.work.value
  orderly : s.cache.Orderly

theorem kept_start : Kept ({} : State α) := by
  refine ⟨?_, ?_, ?_⟩
  · intro e member
    cases member
  · intro client member
    cases member
  · exact ⟨Nat.zero_le _, .nil, fun e member => by cases member⟩

theorem Kept.move {s : State α} (kept : Kept s) (m : Move α) : Kept (s.move m) := by
  rcases move_cases s m with
    ⟨work, rfl⟩ | ⟨i, rfl, -, same⟩ | ⟨i, client, stage, cache, answered, rfl, here, turn, eq⟩
  · refine ⟨kept.faithful, ?_, kept.orderly⟩
    intro client member
    rcases List.mem_append.mp member with old | new
    · exact kept.bound client old
    · rw [List.mem_singleton.mp new]
      rfl
  · rw [same]
    exact kept
  · rw [eq]
    refine ⟨?_, ?_, turn.orderly kept.orderly⟩
    · intro e member
      rcases List.mem_append.mp member with old | new
      · exact kept.faithful e old
      · exact turn.faithful e (Option.mem_toList.mp new)
    · intro other member
      rcases List.mem_or_eq_of_mem_set member with old | rfl
      · exact kept.bound other old
      · exact turn.value_eq.trans (kept.bound client (List.mem_of_getElem? here))

theorem Kept.run {s : State α} (kept : Kept s) (moves : List (Move α)) : Kept (s.run moves) := by
  induction moves generalizing s with
  | nil => exact kept
  | cons m moves ih => exact ih (kept.move m)

theorem grows_move (s : State α) (m : Move α) : s.cache.Grows (s.move m).cache := by
  rcases move_cases s m with
    ⟨work, rfl⟩ | ⟨i, rfl, -, same⟩ | ⟨i, client, stage, cache, answered, rfl, -, turn, eq⟩
  · exact .refl s.cache
  · rw [same]
    exact .refl s.cache
  · rw [eq]
    exact turn.grows

theorem grows_run (s : State α) (moves : List (Move α)) : s.cache.Grows (s.run moves).cache := by
  induction moves generalizing s with
  | nil => exact .refl s.cache
  | cons m moves ih => exact (grows_move s m).trans (ih (s.move m))

/-- With room in the cache a rule that was compiled is kept for good. -/
theorem find?_of_keeping {s : State α} {i : Nat} {client : Client α} {kind : Kind}
    {specifier : String} {next : Except Problem Rule → Inquiry α} {rule : Rule}
    {sound : (RuleKey.of kind specifier).compile = .ok rule} (here : s.clients[i]? = some client)
    (keeping : client.stage = .keeping kind specifier next rule sound)
    (room : s.cache.size < RuleCache.capacity) (moves : List (Move α)) :
    ((s.move (.go i)).run moves).cache.find? (.of kind specifier) = some rule := by
  apply (grows_run _ moves).found
  simp only [State.move, here, keeping, Stage.step]
  exact RuleCache.find?_insert sound room

/-- A move of this client brings it nearer to its end, and moves of others leave it where it is. -/
theorem client_move {s : State α} {i : Nat} {client : Client α} (here : s.clients[i]? = some client)
    (m : Move α) :
    ∃ stage, (s.move m).clients[i]? = some { client with stage } ∧
      stage.left ≤ client.stage.left - (if m.lets i then 1 else 0) := by
  obtain ⟨inside, -⟩ := List.getElem?_eq_some_iff.mp here
  rcases move_cases s m with
    ⟨work, rfl⟩ | ⟨j, rfl, nobody, same⟩ | ⟨j, other, stage, cache, answered, rfl, there, turn, eq⟩
  · refine ⟨client.stage, ?_, Nat.le_refl _⟩
    simp only [State.move]
    rw [List.getElem?_append_left inside, here]
  · refine ⟨client.stage, by rw [same, here], ?_⟩
    have elsewhere : j ≠ i := by
      rintro rfl
      rw [nobody] at here
      cases here
    simp [Move.lets, elsewhere]
  · rw [eq]
    by_cases same : j = i
    · subst same
      rw [here] at there
      cases there
      refine ⟨stage, ?_, ?_⟩
      · rw [List.getElem?_set_self inside]
      · simp only [Move.lets, beq_self_eq_true, if_pos]
        rcases turn.left_lt with nearer | ⟨ended, still⟩
        · omega
        · rw [still]
          omega
    · refine ⟨client.stage, ?_, ?_⟩
      · rw [List.getElem?_set_ne same, here]
      · simp [Move.lets, same]

theorem client_run {s : State α} {i : Nat} {client : Client α} (here : s.clients[i]? = some client)
    (moves : List (Move α)) :
    ∃ stage, (s.run moves).clients[i]? = some { client with stage } ∧
      stage.left ≤ client.stage.left - moves.countP (Move.lets i) := by
  induction moves generalizing s client with
  | nil => exact ⟨client.stage, here, Nat.le_refl _⟩
  | cons m moves ih =>
    obtain ⟨stage, there, nearer⟩ := client_move here m
    obtain ⟨last, reached, bound⟩ := ih there
    refine ⟨last, reached, ?_⟩
    rw [List.countP_cons]
    dsimp only at bound
    omega

theorem done_of_left_eq_zero {stage : Stage α} (rests : stage.left = 0) :
    stage = .looking (.done stage.value) := by
  cases stage with
  | looking work =>
    cases work with
    | done a => rfl
    | ask kind specifier next =>
      simp only [Stage.left, Inquiry.turns] at rests
      omega
  | missing | keeping =>
    simp only [Stage.left] at rests
    omega

/-- Given its turns, a client comes to the end of its work with what it comes to by itself. -/
theorem done_of_turns {s : State α} (kept : Kept s) {i : Nat} {client : Client α}
    (here : s.clients[i]? = some client) {moves : List (Move α)}
    (enough : client.stage.left ≤ moves.countP (Move.lets i)) :
    (s.run moves).clients[i]? = some ⟨client.work, .looking (.done client.work.value)⟩ := by
  obtain ⟨stage, reached, bound⟩ := client_run here moves
  have rests : stage.left = 0 := by omega
  have done := done_of_left_eq_zero rests
  have value := (kept.run moves).bound _ (List.mem_of_getElem? reached)
  dsimp only at value
  rw [reached, done, value]

theorem run_append (s : State α) (first second : List (Move α)) :
    s.run (first ++ second) = (s.run first).run second :=
  List.foldl_append

section

variable {kind : Kind} {specifier : String} {next : Except Problem Rule → Inquiry α}

theorem step_of_compiled {rule : Rule} (sound : (RuleKey.of kind specifier).compile = .ok rule)
    (c : RuleCache) : (Stage.missing kind specifier next).step c =
      (.keeping kind specifier next rule sound, c, none) := by
  simp only [Stage.step]
  split
  · next other compiled =>
    cases sound.symm.trans compiled
    rfl
  · next problem fails => cases sound.symm.trans fails

theorem step_of_failed {problem : Problem}
    (fails : (RuleKey.of kind specifier).compile = .error problem) (c : RuleCache) :
    (Stage.missing kind specifier next).step c =
      (.looking (next (.error problem)), c, some ⟨kind, specifier, .error problem⟩) := by
  simp only [Stage.step]
  split
  · next rule compiled => cases fails.symm.trans compiled
  · next other found =>
    cases fails.symm.trans found
    rfl

end

/-- What a client's own step does to it and to the cache. -/
theorem move_go {s : State α} {i : Nat} {whole : Inquiry α} {stage : Stage α}
    (here : s.clients[i]? = some ⟨whole, stage⟩) :
    (s.move (.go i)).clients[i]? = some ⟨whole, (stage.step s.cache).1⟩ ∧
      (s.move (.go i)).cache = (stage.step s.cache).2.1 := by
  obtain ⟨inside, -⟩ := List.getElem?_eq_some_iff.mp here
  simp only [State.move, here, List.getElem?_set_self inside, and_self]

/-- A call that nobody interrupts answers and leaves behind what it does for one client alone. -/
theorem run_ask {s : State α} {i : Nat} {whole : Inquiry α} {kind : Kind} {specifier : String}
    {next : Except Problem Rule → Inquiry α}
    (here : s.clients[i]? = some ⟨whole, .looking (.ask kind specifier next)⟩) :
    ∃ count, let t := s.run (List.replicate count (.go i))
      t.clients[i]? = some ⟨whole, .looking (next (s.cache.rule kind specifier).1)⟩ ∧
        t.cache = (s.cache.rule kind specifier).2 := by
  obtain ⟨looked, same⟩ := move_go here
  cases look : s.cache.find? (.of kind specifier) with
  | some rule =>
    refine ⟨1, ?_⟩
    simp only [Stage.step, look] at looked same
    simp only [RuleCache.rule, look]
    exact ⟨looked, same⟩
  | none =>
    simp only [Stage.step, look] at looked same
    obtain ⟨tried, unchanged⟩ := move_go looked
    simp only [RuleCache.rule, look, RuleCache.compileInto]
    split
    · next rule sound =>
      rw [step_of_compiled sound] at tried unchanged
      obtain ⟨kept, grown⟩ := move_go tried
      refine ⟨3, kept, ?_⟩
      rw [unchanged, same] at grown
      exact grown
    · next problem fails =>
      rw [step_of_failed fails] at tried unchanged
      exact ⟨2, tried, unchanged.trans same⟩

/-- So work that nobody interrupts comes to what it does with the cache to itself. -/
theorem run_alone (work : Inquiry α) {s : State α} {i : Nat} {whole : Inquiry α}
    (here : s.clients[i]? = some ⟨whole, .looking work⟩) :
    ∃ count, let t := s.run (List.replicate count (.go i))
      t.clients[i]? = some ⟨whole, .looking (.done (work.alone s.cache).1)⟩ ∧
        t.cache = (work.alone s.cache).2 := by
  induction work generalizing s with
  | done a => exact ⟨0, here, rfl⟩
  | ask kind specifier next ih =>
    obtain ⟨first, there, cache⟩ := run_ask here
    obtain ⟨rest, done, grown⟩ := ih _ there
    rw [cache] at done grown
    refine ⟨first + rest, ?_⟩
    rw [← List.replicate_append_replicate, run_append]
    exact ⟨done, grown⟩

/-- What clients can rely on, whatever the others do from here on. -/
structure State.Reliable (s : State α) : Prop where
  /-- also a call that failed was answered as compiling answers -/
  faithful : ∀ e ∈ s.answers, e.answer = Rule.compile e.kind e.specifier
  orderly : s.cache.Orderly
  sound : ∀ e ∈ s.cache.entries, e.1.compile = .ok e.2
  grows : ∀ more, s.cache.Grows (s.run more).cache
  keeps : ∀ {i client kind specifier next rule sound}, s.clients[i]? = some client →
    client.stage = .keeping kind specifier next rule sound → s.cache.size < RuleCache.capacity →
      ∀ more, (s.run (.go i :: more)).cache.find? (.of kind specifier) = some rule
  /-- a client comes to the end of its work once it has had its turns -/
  ends : ∀ {i client more}, s.clients[i]? = some client →
    client.stage.left ≤ more.countP (Move.lets i) →
      (s.run more).clients[i]? = some ⟨client.work, .looking (.done client.work.value)⟩
  /-- without others the work goes as with a cache to itself -/
  alone : ∀ {i work}, s.clients[i]? = some ⟨work, .looking work⟩ →
    ∃ count, let t := s.run (List.replicate count (.go i))
      t.clients[i]? = some ⟨work, .looking (.done (work.alone s.cache).1)⟩ ∧
        t.cache = (work.alone s.cache).2

theorem Kept.reliable {s : State α} (kept : Kept s) : s.Reliable where
  faithful := kept.faithful
  orderly := kept.orderly
  sound := s.cache.sound
  grows := grows_run s
  keeps := find?_of_keeping
  ends here enough := done_of_turns kept here enough
  alone := run_alone _

end Sharing
end Mintmark.Format
