import Mintmark.Proofs.Store.Ledger
import Mintmark.Proofs.Text.Digits
import Mintmark.Store.KeyValue

/-!
# The store on a server keeps a ledger

Counters and layouts have keys of their own. The five commands that take a value make the fields of
the counter if they have to and then count up, which the server does on the numerals that it keeps.
It has one bit less than a counter has, so this holds up to there only.
-/

namespace Mintmark.Store

theorem KeySpace.intOfText?_ofInt {i : Int} (fits : Number.fits64 i = true) :
    intOfText? (Text.ofInt i) = some i := by
  simp [intOfText?, Text.readInt64?_ofInt fits]

namespace KeyValue

theorem word?_ofInt (n : UInt64) : word? (.text (some (Text.ofInt n.toNat))) = some n := by
  have fits : n.toNat < Number.bound64 := n.toNat_lt
  simp [word?, Text.readNatural?_ofInt, fits]

theorem integer?_ofInt {i : Int} (fits : Number.fits64 i = true) :
    integer? (.text (some (Text.ofInt i))) = some i := Text.readInt64?_ofInt fits

end KeyValue

/-- The key that a command is about. -/
def Command.key? : Command → Option String
  | ping => none
  | get key | set key _ | del key | hget key _ | hmget key _ | hset key _ _ | hsetnx key _ _
  | hincrby key _ _ => some key

namespace KeySpace

variable {k : KeySpace} {t : Table String String} {key field value other : String}

theorem find?_putField (away : other ≠ key) (t : Table String String) (field value : String) :
    (k.putField key t field value).keys.find? other = k.keys.find? other := by
  rw [putField, Table.find?_insert, if_neg away]

theorem find?_increment (away : other ≠ key) (t : Table String String) (field : String)
    (amount : Int) : (k.increment key t field amount).2.keys.find? other = k.keys.find? other := by
  unfold increment
  split
  · rfl
  · dsimp only
    split
    · exact find?_putField away ..
    · rfl

/-- A command changes no key but its own. -/
theorem find?_run {command : Command} (away : command.key? ≠ some other) :
    (k.run command).2.keys.find? other = k.keys.find? other := by
  cases command with
  | ping => rfl
  | get key =>
    simp only [run]
    split <;> rfl
  | set key value =>
    have away : other ≠ key := fun same => away (congrArg some same.symm)
    rw [run, Table.find?_insert, if_neg away]
  | del key =>
    have away : other ≠ key := fun same => away (congrArg some same.symm)
    rw [run, Table.find?_erase, if_neg away]
  | hget key field | hmget key fields =>
    simp only [run]
    cases k.fields? key <;> rfl
  | hset key field value =>
    have away : other ≠ key := fun same => away (congrArg some same.symm)
    simp only [run]
    cases k.fields? key with
    | error reply => rfl
    | ok t => exact find?_putField away t field value
  | hsetnx key field value =>
    have away : other ≠ key := fun same => away (congrArg some same.symm)
    simp only [run]
    cases k.fields? key with
    | error reply => rfl
    | ok t =>
      dsimp only
      split
      · rfl
      · exact find?_putField away t field value
  | hincrby key field amount =>
    have away : other ≠ key := fun same => away (congrArg some same.symm)
    simp only [run]
    cases k.fields? key with
    | error reply => rfl
    | ok t => exact find?_increment away t field amount

theorem find?_runAll {commands : List Command}
    (away : ∀ command ∈ commands, command.key? ≠ some other) :
    (k.runAll commands).2.keys.find? other = k.keys.find? other := by
  induction commands generalizing k with
  | nil => rfl
  | cons command commands ih =>
    rw [List.forall_mem_cons] at away
    rw [runAll]
    exact (ih away.2).trans (find?_run away.1)

theorem fields?_putField (k : KeySpace) (key : String) (t : Table String String)
    (field value : String) :
    (k.putField key t field value).fields? key = .ok (t.insert field value) := by
  simp [fields?, putField]

theorem run_hset (fields : k.fields? key = .ok t) (field value : String) :
    ∃ i k', k.run (.hset key field value) = (.integer i, k') ∧
      k'.fields? key = .ok (t.insert field value) := by
  simp only [run, fields]
  exact ⟨_, _, rfl, fields?_putField k key t field value⟩

theorem run_hsetnx (fields : k.fields? key = .ok t) (field value : String) :
    ∃ i k', k.run (.hsetnx key field value) = (.integer i, k') ∧
      k'.fields? key = .ok (if t.contains field then t else t.insert field value) := by
  simp only [run, fields]
  cases t.contains field with
  | true => exact ⟨0, k, rfl, fields⟩
  | false => exact ⟨1, _, rfl, fields?_putField k key t field value⟩

theorem run_hincrby (fields : k.fields? key = .ok t) {i : Int}
    (here : (t.find? field).getD "0" = Text.ofInt i) (fits : Number.fits64 i = true)
    (room : Number.fits64 (i + 1) = true) :
    ∃ k', k.run (.hincrby key field 1) = (.integer (i + 1), k') ∧
      k'.fields? key = .ok (t.insert field (Text.ofInt (i + 1))) := by
  refine ⟨_, ?_, fields?_putField k key t field _⟩
  simp only [run, fields, increment, here, intOfText?_ofInt fits, room, if_true]

theorem runAll_cons {command : Command} {reply : Reply} {k' : KeySpace}
    (ran : k.run command = (reply, k')) (rest : List Command) :
    k.runAll (command :: rest) = (reply :: (k'.runAll rest).1, (k'.runAll rest).2) := by
  rw [runAll, ran]

theorem find?_of_fields? {text : String} (fields : k.fields? key = .ok t)
    (filled : t.find? field = some text) : k.keys.find? key = some (.fields t) := by
  unfold fields? at fields
  cases here : k.keys.find? key with
  | none =>
    rw [here] at fields
    cases fields
    cases filled
  | some stored =>
    rw [here] at fields
    cases stored <;> cases fields
    rfl

end KeySpace

namespace KeyValue

/-- The table has all the fields of the counter. -/
structure Tabled (t : Table String String) (c : Counter) : Prop where
  next : t.find? "next_value" = some (Text.ofInt c.next.toNat)
  version : t.find? "version" = some (Text.ofInt c.version.toNat)
  created : t.find? "created_at" = some (Text.ofInt c.createdAt)
  updated : t.find? "updated_at" = some (Text.ofInt c.updatedAt)

/-- The table has those fields of the counter that counting up starts from. -/
structure Begun (t : Table String String) (c : Counter) : Prop where
  next : t.find? "next_value" = some (Text.ofInt c.next.toNat)
  version : (t.find? "version").getD "0" = Text.ofInt c.version.toNat
  created : t.find? "created_at" = some (Text.ofInt c.createdAt)

theorem Tabled.begun {t : Table String String} {c : Counter} (tabled : Tabled t c) : Begun t c := by
  constructor
  · exact tabled.next
  · rw [tabled.version]
    rfl
  · exact tabled.created

/-- A counter that the server can count on with. -/
structure Sound (c : Counter) : Prop where
  timed : c.Timed
  counted : c.Counted
  room : c.next.toNat < 9223372036854775808

/-- What is kept under the key of a counter. -/
inductive Written : Option Stored → Option Counter → Prop
  | missing : Written none none
  | made {t : Table String String} {c : Counter} (tabled : Tabled t c) (sound : Sound c) :
    Written (some (.fields t)) (some c)

/-- The counter after a value has been taken from it. -/
def advanced (c : Counter) (now : Int) : Counter :=
  { c with next := c.next + 1, version := c.version + 1, updatedAt := now }

theorem advance?_of_room {c : Counter} (sound : Sound c)
    (room : c.next.toNat + 1 < 9223372036854775808) (now : Int) :
    c.advance? now = some (c.next, advanced c now) := by
  apply sound.counted.advance?_of_room
  intro full
  rw [full] at room
  exact absurd room (by decide)

theorem toNat_advanced {c : Counter} (sound : Sound c)
    (room : c.next.toNat + 1 < 9223372036854775808) (now : Int) :
    (advanced c now).next.toNat = c.next.toNat + 1 ∧
      (advanced c now).version.toNat = c.version.toNat + 1 := by
  have counted : c.version.toNat ≤ c.next.toNat := sound.counted
  simp only [advanced, UInt64.toNat_add, UInt64.reduceToNat]
  omega

theorem sound_advanced {c : Counter} (sound : Sound c)
    (room : c.next.toNat + 1 < 9223372036854775808) {now : Int} (fits : Number.fits64 now = true) :
    Sound (advanced c now) := by
  obtain ⟨next, version⟩ := toNat_advanced sound room now
  have counted : c.version.toNat ≤ c.next.toNat := sound.counted
  constructor
  · exact ⟨sound.timed.created, fits⟩
  · rw [Counter.Counted, next, version]
    omega
  · omega

theorem fits64_of_lt {n : Nat} (lt : n < 9223372036854775808) : Number.fits64 (n : Int) = true := by
  simp only [Number.fits64, Number.least64, Bool.and_eq_true, decide_eq_true_eq]
  omega

section

variable {space : KeySpace} {key : String}

theorem fields?_of_written {found : Option Counter}
    (written : Written (space.keys.find? key) found) :
    ∃ t, space.fields? key = .ok t ∧
      ((found = none ∧ t = .empty) ∨ ∃ c, found = some c ∧ Tabled t c ∧ Sound c) := by
  unfold KeySpace.fields?
  cases here : space.keys.find? key with
  | none =>
    rw [here] at written
    cases written
    exact ⟨.empty, rfl, .inl ⟨rfl, rfl⟩⟩
  | some stored =>
    rw [here] at written
    cases written with
    | made tabled sound => exact ⟨_, rfl, .inr ⟨_, rfl, tabled, sound⟩⟩

/-- The first two commands leave the fields that counting up starts from. -/
theorem runAll_begun {found : Option Counter} (written : Written (space.keys.find? key) found)
    (id : InventoryId) (start : UInt64) (now : Int) :
    ∃ (i j : Int) (middle : KeySpace) (t : Table String String),
      Begun t (found.getD (.fresh id start now)) ∧ middle.fields? key = .ok t ∧
      ∀ rest, space.runAll
          (.hsetnx key "next_value" (Text.ofInt start.toNat) ::
            .hsetnx key "created_at" (Text.ofInt now) :: rest) =
        (.integer i :: .integer j :: (middle.runAll rest).1, (middle.runAll rest).2) := by
  obtain ⟨t, fields, cases⟩ := fields?_of_written written
  obtain ⟨i, one, first, fields⟩ :=
    KeySpace.run_hsetnx fields "next_value" (Text.ofInt start.toNat)
  obtain ⟨j, two, second, fields⟩ := KeySpace.run_hsetnx fields "created_at" (Text.ofInt now)
  refine ⟨i, j, two, _, ?_, fields, fun rest => ?_⟩
  · rcases cases with ⟨rfl, rfl⟩ | ⟨c, rfl, tabled, -⟩
    · constructor <;> simp [Table.contains, Counter.fresh, Text.ofInt_zero]
    · simp only [Table.contains, tabled.next, tabled.created, Option.isSome_some, if_true]
      exact tabled.begun
  · rw [KeySpace.runAll_cons first, KeySpace.runAll_cons second]

/-- The other three count up. -/
theorem runAll_advanced {middle : KeySpace} {t : Table String String} {c : Counter}
    (begun : Begun t c) (fields : middle.fields? key = .ok t) (sound : Sound c)
    (room : c.next.toNat + 1 < 9223372036854775808) (now : Int) :
    ∃ i j after t', Tabled t' (advanced c now) ∧ after.fields? key = .ok t' ∧
      middle.runAll [.hincrby key "next_value" 1, .hincrby key "version" 1,
          .hset key "updated_at" (Text.ofInt now)] =
        ([.integer (c.next.toNat + 1), .integer i, .integer j], after) := by
  obtain ⟨next, version⟩ := toNat_advanced sound room now
  have counted : c.version.toNat ≤ c.next.toNat := sound.counted
  have nextHere : (t.find? "next_value").getD "0" = Text.ofInt c.next.toNat := by
    rw [begun.next]
    rfl
  obtain ⟨one, first, fields⟩ := KeySpace.run_hincrby fields nextHere
    (fits64_of_lt (by omega)) (fits64_of_lt room)
  have versionHere : ((t.insert "next_value" (Text.ofInt (c.next.toNat + 1))).find? "version").getD
      "0" = Text.ofInt c.version.toNat := by
    rw [Table.find?_insert, if_neg (by decide), begun.version]
  have versionRoom : c.version.toNat + 1 < 9223372036854775808 := by omega
  obtain ⟨two, second, fields⟩ := KeySpace.run_hincrby fields versionHere
    (fits64_of_lt (by omega)) (fits64_of_lt versionRoom)
  obtain ⟨j, after, third, fields⟩ := KeySpace.run_hset fields "updated_at" (Text.ofInt now)
  refine ⟨c.version.toNat + 1, j, after, _, ?_, fields, ?_⟩
  · constructor
    · simp [next]
    · simp [version]
    · simp [begun.created, advanced]
    · simp [advanced]
  · rw [KeySpace.runAll_cons first, KeySpace.runAll_cons second, KeySpace.runAll_cons third]
    rfl

end

variable {k : KeyValue} {s : Server} {id other : InventoryId}

theorem counterKey_inj : k.counterKey id = k.counterKey other ↔ id = other := by
  rw [counterKey, counterKey, String.append_right_inj, InventoryId.text_inj]

theorem layoutKey_inj : k.layoutKey id = k.layoutKey other ↔ id = other := by
  rw [layoutKey, layoutKey, String.append_right_inj, InventoryId.text_inj]

theorem counterKey_ne_layoutKey (k : KeyValue) (id other : InventoryId) :
    k.counterKey id ≠ k.layoutKey other := by
  intro same
  rw [counterKey, layoutKey, String.append_assoc, String.append_assoc,
    String.append_right_inj] at same
  have chars := congrArg (fun key => key.toList.head?) same
  simp [String.toList_append] at chars

theorem send_eq (reachable : s.isReachable = true) {commands : List Command} {replies : List Reply}
    {space : KeySpace} (ran : s.space.runAll commands = (replies, space))
    (fine : ∀ reason, Reply.error reason ∉ replies) :
    send commands s = (.ok replies, { s with space }) := by
  rw [send, if_pos reachable, ran]
  dsimp only
  split
  · next reason found =>
    obtain ⟨reply, member, failed⟩ := List.exists_of_findSome?_eq_some found
    cases reply with
    | error reason => exact absurd member (fine reason)
    | status | integer | text | texts => cases failed
  · rfl

theorem ask_eq {α : Type} (reachable : s.isReachable = true) {command : Command} {reply : Reply}
    {space : KeySpace} (ran : s.space.run command = (reply, space))
    (fine : ∀ reason, reply ≠ .error reason) (read : Reply → Except StoreError α) :
    ask command read s = (read reply, { s with space }) := by
  have sent : send [command] s = (.ok [reply], { s with space }) := by
    apply send_eq reachable
    · rw [KeySpace.runAll_cons ran]
      rfl
    · intro reason member
      exact fine reason (List.mem_singleton.mp member).symm
  rw [ask, sent]

/-- The keys of counters show these counts. -/
structure ShowsCounts (k : KeyValue) (s : Server) (counts : Counts) : Prop where
  reachable : s.isReachable = true
  written : ∀ id, ∃ found : Option Counter, Written (s.space.keys.find? (k.counterKey id)) found ∧
    found.map Counter.timeless = counts id
  own : ∀ id, ∀ c ∈ counts id, c.inventory = id

/-- The keys of layouts show these layouts. -/
structure ShowsShelf (k : KeyValue) (s : Server) (shelf : Shelf) : Prop where
  reachable : s.isReachable = true
  texts : ∀ id, s.space.keys.find? (k.layoutKey id) =
    (shelf id).map fun stored => .text stored.encode.text
  fits : ∀ id, ∀ stored ∈ shelf id, stored.layout.Fits

theorem send_snd (commands : List Command) (s : Server) :
    (send commands s).2.isReachable = s.isReachable ∧
      ∀ key, (∀ command ∈ commands, command.key? ≠ some key) →
        (send commands s).2.space.keys.find? key = s.space.keys.find? key := by
  unfold send
  split
  · exact ⟨rfl, fun key away => KeySpace.find?_runAll away⟩
  · exact ⟨rfl, fun _ _ => rfl⟩

theorem ask_snd {α : Type} (command : Command) (read : Reply → Except StoreError α) (s : Server) :
    (ask command read s).2 = (send [command] s).2 := by
  unfold ask
  split <;> next eq => rw [eq]

theorem allocate_snd (k : KeyValue) (id : InventoryId) (start : UInt64) (now : Int) (s : Server) :
    (k.allocate id start now s).2 = (send (allocation (k.counterKey id) start now) s).2 := by
  unfold allocate
  rcases send (allocation (k.counterKey id) start now) s with ⟨error | replies, after⟩
  · rfl
  · dsimp only
    split
    · rfl
    · split <;> rfl

theorem key?_of_mem_allocation {key : String} {start : UInt64} {now : Int} {command : Command}
    (member : command ∈ allocation key start now) : command.key? = some key := by
  simp only [allocation, List.mem_cons, List.not_mem_nil, or_false] at member
  rcases member with rfl | rfl | rfl | rfl | rfl <;> rfl

/-- Commands on counters leave the layouts alone. -/
theorem ShowsShelf.send {shelf : Shelf} (shows : ShowsShelf k s shelf) (id : InventoryId)
    {commands : List Command}
    (about : ∀ command ∈ commands, command.key? = some (k.counterKey id)) :
    ShowsShelf k (send commands s).2 shelf := by
  obtain ⟨reachable, others⟩ := send_snd commands s
  constructor
  · rw [reachable, shows.reachable]
  · intro other
    rw [others, shows.texts other]
    intro command member same
    rw [about command member] at same
    exact counterKey_ne_layoutKey k id other (Option.some.inj same)
  · exact shows.fits

/-- Commands on layouts leave the counters alone. -/
theorem ShowsCounts.ask {α : Type} {counts : Counts} (shows : ShowsCounts k s counts)
    {command : Command} (about : command.key? = some (k.layoutKey id))
    (read : Reply → Except StoreError α) : ShowsCounts k (ask command read s).2 counts := by
  obtain ⟨reachable, others⟩ := send_snd [command] s
  rw [ask_snd]
  constructor
  · rw [reachable, shows.reachable]
  · intro other
    rw [others]
    · exact shows.written other
    · intro command member same
      rw [List.mem_singleton.mp member, about] at same
      exact counterKey_ne_layoutKey k other id (Option.some.inj same).symm
  · exact shows.own

theorem ShowsShelf.update {shelf : Shelf} (shows : ShowsShelf k s shelf)
    {stored? : Option StoredLayout} (fits : ∀ stored ∈ stored?, stored.layout.Fits) {space : KeySpace}
    (replaced : ∀ other, space.keys.find? (k.layoutKey other) =
      if other = id then stored?.map fun stored => .text stored.encode.text
      else s.space.keys.find? (k.layoutKey other)) :
    ShowsShelf k { s with space } (Function.update shelf id stored?) := by
  constructor
  · exact shows.reachable
  · intro other
    rw [replaced, Function.update_apply, shows.texts]
    split <;> rfl
  · intro other stored member
    rw [Function.update_apply] at member
    split at member
    · exact fits stored member
    · exact shows.fits other stored member

theorem decodeLayout_text {stored : StoredLayout} (fits : stored.layout.Fits) :
    decodeLayout (.text (some stored.encode.text)) = .ok (some stored) := by
  rw [decodeLayout, Json.Decoder.ofText_text _ (StoredLayout.plain_encode fits),
    StoredLayout.decode_encode fits]

theorem keepsShelf (k : KeyValue) : KeepsShelf k.backend (fun _ => True) (ShowsShelf k) where
  allocate id start now shows := by
    change ShowsShelf k (k.allocate id start now _).2 _
    rw [allocate_snd]
    exact shows.send id fun command => key?_of_mem_allocation
  peek id start shows := by
    change ShowsShelf k (k.peek id start _).2 _
    rw [peek, ask_snd]
    exact shows.send id (by simp [Command.key?])
  counter id shows := by
    change ShowsShelf k (k.counter id _).2 _
    rw [counter, ask_snd]
    exact shows.send id (by simp [Command.key?])
  save := by
    intro s shelf stored _ fits shows
    have saved : k.backend.save stored s = _ :=
      ask_eq shows.reachable rfl (by simp) fun _ => Except.ok ()
    rw [saved]
    refine ⟨rfl, shows.update ?_ fun other => ?_⟩
    · intro other member
      cases member
      exact fits
    · rw [Table.find?_insert]
      simp only [layoutKey_inj]
      rfl
  load := by
    intro s shelf id shows
    have text := shows.texts id
    have ran : s.space.run (.get (k.layoutKey id)) =
        (.text ((shelf id).map fun stored => stored.encode.text), s.space) := by
      rw [KeySpace.run, text]
      cases shelf id <;> rfl
    have loaded : k.backend.load id s = _ := ask_eq shows.reachable ran (by simp) decodeLayout
    rw [loaded]
    refine ⟨fun _ => ?_, shows⟩
    cases here : shelf id with
    | none => rfl
    | some stored => exact decodeLayout_text (shows.fits id stored here)
  remove := by
    intro s shelf id _ shows
    have removed : k.backend.remove id s = _ := ask_eq shows.reachable rfl (by simp) _
    rw [removed]
    refine ⟨?_, shows.update (by simp) fun other => ?_⟩
    · simp only [Table.contains, shows.texts id]
      cases shelf id <;> rfl
    · rw [Table.find?_erase]
      simp only [layoutKey_inj]
      rfl

/-- The greatest number that the server counts with. -/
def maxValue : UInt64 := 9223372036854775807

/-- Where a value may be taken from the server. -/
structure Allowed (counts : Counts) (id : InventoryId) (start : UInt64) (now : Int) : Prop where
  start : start < maxValue
  room : ∀ c ∈ counts id, c.next ≠ maxValue
  timed : Number.fits64 now = true

theorem lt_maxValue_iff {n : UInt64} : n < maxValue ↔ n.toNat + 1 < 9223372036854775808 := by
  rw [UInt64.lt_iff_toNat_lt, show maxValue.toNat = 9223372036854775807 from rfl]
  omega

theorem word?_succ {n : UInt64} (room : n.toNat + 1 < 9223372036854775808) :
    word? (.integer (n.toNat + 1)) = some (n + 1) := by
  have small : ((n.toNat + 1 : Nat) : Int) % (Number.bound64 : Int) = (n.toNat + 1 : Nat) :=
    Int.emod_eq_of_lt (by omega) (by simp only [Number.bound64]; omega)
  change some ((((n.toNat + 1 : Nat) : Int) % (Number.bound64 : Int)).toNat.toUInt64) = _
  rw [small, Int.toNat_natCast, Option.some.injEq, ← UInt64.toNat_inj, UInt64.toNat_add]
  rfl

theorem sound_getD {found : Option Counter} {entry : Option Stored} (written : Written entry found)
    {counts : Counts} {id : InventoryId} (shown : found.map Counter.timeless = counts id)
    {start : UInt64} {now : Int} (allowed : Allowed counts id start now) :
    Sound (found.getD (.fresh id start now)) ∧
      (found.getD (.fresh id start now)).next.toNat + 1 < 9223372036854775808 := by
  have start := lt_maxValue_iff.mp allowed.start
  cases written with
  | missing =>
    refine ⟨?_, start⟩
    constructor
    · exact ⟨allowed.timed, allowed.timed⟩
    · exact Nat.zero_le _
    · exact Nat.lt_of_succ_lt start
  | made tabled sound =>
    rename_i c
    refine ⟨sound, Nat.lt_of_le_of_ne sound.room fun full => ?_⟩
    have free : c.next ≠ maxValue := allowed.room c.timeless (by rw [← shown]; rfl)
    exact free (UInt64.toNat_inj.mp (Nat.succ.inj full))

/-- Taking a value counts up under its key and replies, as the third of five integers, one more than
the value. -/
theorem runAll_allocation {space : KeySpace} {key : String} {found : Option Counter}
    (written : Written (space.keys.find? key) found) {counts : Counts} {id : InventoryId}
    (shown : found.map Counter.timeless = counts id) {start : UInt64} {now : Int}
    (allowed : Allowed counts id start now) {c : Counter}
    (current : found.getD (.fresh id start now) = c) :
    ∃ i j a b after, space.runAll (allocation key start now) =
        ([.integer i, .integer j, .integer (c.next.toNat + 1), .integer a, .integer b], after) ∧
      Written (after.keys.find? key) (some (advanced c now)) := by
  obtain ⟨sound, room⟩ := sound_getD written shown allowed
  obtain ⟨i, j, middle, t, begun, fields, first⟩ := runAll_begun written id start now
  rw [current] at sound room begun
  obtain ⟨a, b, after, t', tabled, fields, second⟩ := runAll_advanced begun fields sound room now
  refine ⟨i, j, a, b, after, ?_, ?_⟩
  · rw [allocation, first, second]
  · rw [KeySpace.find?_of_fields? fields tabled.next]
    exact .made tabled (sound_advanced sound room allowed.timed)

theorem allocate_of_runAll (k : KeyValue) {s : Server} (reachable : s.isReachable = true)
    {id : InventoryId} {start : UInt64} {now : Int} {n : UInt64}
    (room : n.toNat + 1 < 9223372036854775808) {i j a b : Int} {after : KeySpace}
    (ran : s.space.runAll (allocation (k.counterKey id) start now) =
      ([.integer i, .integer j, .integer (n.toNat + 1), .integer a, .integer b], after)) :
    k.allocate id start now s = (.ok n, { s with space := after }) := by
  have positive : n + 1 ≠ 0 := by
    intro zero
    have same := congrArg UInt64.toNat zero
    rw [UInt64.toNat_add] at same
    simp only [UInt64.reduceToNat] at same
    omega
  rw [allocate, send_eq reachable ran (by simp)]
  simp only [List.getElem?_cons_succ, List.getElem?_cons_zero, Option.bind_some, word?_succ room,
    if_neg positive, UInt64.add_sub_cancel]

theorem find?_counterKey {k : KeyValue} {space after : KeySpace} {id other : InventoryId}
    {start : UInt64} {now : Int} {replies : List Reply}
    (ran : space.runAll (allocation (k.counterKey id) start now) = (replies, after))
    (away : other ≠ id) :
    after.keys.find? (k.counterKey other) = space.keys.find? (k.counterKey other) := by
  have same : after = (space.runAll (allocation (k.counterKey id) start now)).2 := by rw [ran]
  rw [same]
  apply KeySpace.find?_runAll
  intro command member about
  rw [key?_of_mem_allocation member] at about
  exact away (counterKey_inj.mp (Option.some.inj about)).symm

theorem counterOf_tabled {t : Table String String} {c : Counter} (tabled : Tabled t c)
    (timed : c.Timed) :
    counterOf c.inventory
        (.texts (["next_value", "version", "created_at", "updated_at"].map t.find?)) =
      .ok (some c) := by
  simp only [List.map_cons, List.map_nil, tabled.next, tabled.version, tabled.created,
    tabled.updated, counterOf, optional, word?_ofInt, integer?_ofInt timed.created,
    integer?_ofInt timed.updated]
  rfl

theorem keepsCounts (k : KeyValue) :
    KeepsCounts k.backend (fun _ => True) Allowed (ShowsCounts k) where
  save stored shown := shown.ask rfl _
  load id shown := shown.ask rfl _
  remove id shown := shown.ask rfl _
  allocate := by
    intro s counts id start now _ allowed shown
    obtain ⟨found, written, eq⟩ := shown.written id
    obtain ⟨sound, room⟩ := sound_getD written eq allowed
    have taking := Counts.take?_eq eq start now
    obtain ⟨i, j, a, b, after, ran, written'⟩ := runAll_allocation written eq allowed rfl
    rw [advance?_of_room sound room] at taking
    have allocated : k.backend.allocate id start now s = _ :=
      allocate_of_runAll k shown.reachable room ran
    rw [allocated, Counts.taken, Counts.afterTaking, taking]
    dsimp only [Option.map_some]
    refine ⟨rfl, shown.reachable, fun other => ?_, fun other c member => ?_⟩
    · rw [Function.update_apply]
      by_cases same : other = id
      · rw [if_pos same, same]
        exact ⟨_, written', rfl⟩
      · rw [if_neg same, find?_counterKey ran same]
        exact shown.written other
    · rw [Function.update_apply] at member
      by_cases same : other = id
      · rw [if_pos same, Option.mem_some_iff] at member
        rw [← member, same]
        cases found with
        | none => rfl
        | some c => exact shown.own id c.timeless (eq ▸ rfl)
      · rw [if_neg same] at member
        exact shown.own other c member
  peek := by
    intro s counts id start _ shown
    obtain ⟨found, written, eq⟩ := shown.written id
    obtain ⟨t, fields, cases⟩ := fields?_of_written written
    have ran : s.space.run (.hget (k.counterKey id) "next_value") =
        (.text (t.find? "next_value"), s.space) := by
      rw [KeySpace.run, fields]
    have peeked : k.backend.peek id start s = _ := ask_eq shown.reachable ran (by simp) _
    rw [peeked, ← eq]
    refine ⟨?_, shown⟩
    rcases cases with ⟨rfl, rfl⟩ | ⟨c, rfl, tabled, -⟩
    · rfl
    · simp only [tabled.next, optional, word?_ofInt]
      rfl
  counter := by
    intro s counts id _ shown
    obtain ⟨found, written, eq⟩ := shown.written id
    obtain ⟨t, fields, cases⟩ := fields?_of_written written
    have ran : s.space.run (.hmget (k.counterKey id)
          ["next_value", "version", "created_at", "updated_at"]) =
        (.texts (["next_value", "version", "created_at", "updated_at"].map t.find?), s.space) := by
      rw [KeySpace.run, fields]
    have answered : k.backend.counter id s = _ :=
      ask_eq shown.reachable ran (by simp) (counterOf id)
    rw [answered, ← eq]
    refine ⟨?_, shown⟩
    rcases cases with ⟨rfl, rfl⟩ | ⟨c, rfl, tabled, sound⟩
    · rfl
    · have own : c.inventory = id := shown.own id c.timeless (eq ▸ rfl)
      rw [← own, counterOf_tabled tabled sound.timed]
      rfl

end KeyValue
end Mintmark.Store
