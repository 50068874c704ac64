import Mintmark.Proofs.Store.Keys

/-!
# What a failed taking leaves on the server

Each of the five commands of a taking does what it can, whether the others fail or not. So a taking
that fails has changed the fields of its counter, unless they are such that none of the five
commands has anything to change.
-/

namespace Mintmark.Store

namespace KeySpace

variable {k : KeySpace} {t u : Table String String} {key field value other : String}

/-- What a key holds. The order in which fields are kept does not matter. -/
def content? (k : KeySpace) (key : String) : Option (String ⊕ (String → Option String)) :=
  (k.keys.find? key).map fun
    | .text s => .inl s
    | .fields t => .inr t.find?

/-- The number that a field is counted up to, if the server can count so far. -/
def countUp? (t : Table String String) (field : String) : Option Int :=
  ((intOfText? ((t.find? field).getD "0")).map (· + 1)).filter Number.fits64

def filled (t : Table String String) (field value : String) : Table String String :=
  if t.contains field then t else t.insert field value

def counted (t : Table String String) (field : String) : Table String String :=
  (countUp? t field).elim t fun i => t.insert field (Text.ofInt i)

theorem fields?_cases (k : KeySpace) (key : String) :
    (∃ text, k.keys.find? key = some (.text text)) ∨ ∃ t, k.fields? key = .ok t := by
  unfold fields?
  cases k.keys.find? key with
  | none => exact .inr ⟨_, rfl⟩
  | some stored =>
    cases stored with
    | text text => exact .inl ⟨text, rfl⟩
    | fields t => exact .inr ⟨t, rfl⟩

/-- The replies to counting up a field. -/
inductive CountReply : Option Int → Reply → Prop
  | up (i : Int) : CountReply (some i) (.integer i)
  | stuck (reason : String) : CountReply none (.error reason)

theorem countUp?_congr (same : t.find? field = u.find? field) :
    countUp? t field = countUp? u field := by
  rw [countUp?, same, countUp?]

@[simp] theorem find?_filled (t : Table String String) (field value other : String) :
    (filled t field value).find? other =
      if other = field then some ((t.find? field).getD value) else t.find? other := by
  unfold filled Table.contains
  cases here : t.find? field with
  | none => simp
  | some text =>
    by_cases same : other = field
    · simp [same, here]
    · simp [same]

@[simp] theorem find?_counted (t : Table String String) (field other : String) :
    (counted t field).find? other =
      if other = field then (countUp? t field).elim (t.find? field) (some ∘ Text.ofInt)
      else t.find? other := by
  unfold counted
  cases countUp? t field with
  | none => by_cases same : other = field <;> simp [same]
  | some i => by_cases same : other = field <;> simp [same]

theorem countUp?_of_ofInt {i : Int} (here : (t.find? field).getD "0" = Text.ofInt i)
    (fits : Number.fits64 i = true) :
    countUp? t field = if Number.fits64 (i + 1) then some (i + 1) else none := by
  rw [countUp?, here, intOfText?_ofInt fits, Option.map_some, Option.filter_some]

theorem eq_ofInt_of_intOfText? {s : String} {i : Int} (read : intOfText? s = some i) :
    s = Text.ofInt i := by
  rw [intOfText?, Option.filter_eq_some_iff] at read
  exact (beq_iff_eq.mp read.2).symm

theorem run_counting (fields : k.fields? key = .ok t) (field : String) :
    ∃ reply k', k.run (.hincrby key field 1) = (reply, k') ∧
      CountReply (countUp? t field) reply ∧ k'.fields? key = .ok (counted t field) := by
  simp only [run, fields, increment, counted, countUp?]
  cases intOfText? ((t.find? field).getD "0") with
  | none => exact ⟨_, _, rfl, .stuck _, fields⟩
  | some i =>
    rw [Option.map_some, Option.filter_some]
    dsimp only
    cases Number.fits64 (i + 1) with
    | true => exact ⟨_, _, rfl, .up _, fields?_putField ..⟩
    | false => exact ⟨_, _, rfl, .stuck _, fields⟩

end KeySpace

namespace KeyValue

open KeySpace (countUp? filled counted CountReply)

/-- The fields that counting up starts from. -/
def begun (t : Table String String) (start : UInt64) (now : Int) : Table String String :=
  filled (filled t "next_value" (Text.ofInt start.toNat)) "created_at" (Text.ofInt now)

/-- The fields that a taking leaves, whether it fails or not. -/
def leftOver (t : Table String String) (start : UInt64) (now : Int) : Table String String :=
  (counted (counted (begun t start now) "next_value") "version").insert "updated_at"
    (Text.ofInt now)

/-- The fields are such that a taking at this time has nothing to change. -/
structure Stuck (t : Table String String) (now : Int) : Prop where
  next : t.find? "next_value" ≠ none ∧ countUp? t "next_value" = none
  version : countUp? t "version" = none
  created : t.find? "created_at" ≠ none
  updated : t.find? "updated_at" = some (Text.ofInt now)

variable {t : Table String String} {start : UInt64} {now : Int} {space : KeySpace} {key : String}

theorem runAll_allocation_of_fields (fields : space.fields? key = .ok t) (start : UInt64)
    (now : Int) :
    ∃ i j next version l after,
      space.runAll (allocation key start now) =
        ([.integer i, .integer j, next, version, .integer l], after) ∧
      CountReply (countUp? (begun t start now) "next_value") next ∧
      CountReply (countUp? t "version") version ∧
      after.keys.find? key = some (.fields (leftOver t start now)) := by
  obtain ⟨i, one, first, fields⟩ :=
    KeySpace.run_hsetnx fields "next_value" (Text.ofInt start.toNat)
  obtain ⟨j, two, second, fields⟩ := KeySpace.run_hsetnx fields "created_at" (Text.ofInt now)
  obtain ⟨next, three, third, up, fields⟩ := KeySpace.run_counting fields "next_value"
  obtain ⟨version, four, fourth, versionUp, fields⟩ := KeySpace.run_counting fields "version"
  obtain ⟨l, after, fifth, fields⟩ := KeySpace.run_hset fields "updated_at" (Text.ofInt now)
  refine ⟨i, j, next, version, l, after, ?_, up, ?_, ?_⟩
  · rw [allocation, KeySpace.runAll_cons first, KeySpace.runAll_cons second,
      KeySpace.runAll_cons third, KeySpace.runAll_cons fourth, KeySpace.runAll_cons fifth]
    rfl
  · have same : (counted (begun t start now) "next_value").find? "version" =
        t.find? "version" := by
      simp [begun]
    rw [← KeySpace.countUp?_congr same]
    exact versionUp
  · apply KeySpace.find?_of_fields? fields
    rw [Table.find?_insert, if_pos rfl]

theorem find?_begun (t : Table String String) (start : UInt64) (now : Int) (field : String) :
    (begun t start now).find? field =
      if field = "created_at" then some ((t.find? "created_at").getD (Text.ofInt now))
      else if field = "next_value" then
        some ((t.find? "next_value").getD (Text.ofInt start.toNat))
      else t.find? field := by
  simp only [begun, KeySpace.find?_filled, String.reduceEq, if_false]

theorem find?_leftOver (t : Table String String) (start : UInt64) (now : Int) (field : String) :
    (leftOver t start now).find? field =
      if field = "updated_at" then some (Text.ofInt now)
      else if field = "version" ∨ field = "next_value" then
        (counted (begun t start now) field).find? field
      else (begun t start now).find? field := by
  have same : (counted (begun t start now) "next_value").find? "version" =
      (begun t start now).find? "version" := by
    simp
  rw [leftOver, Table.find?_insert, KeySpace.find?_counted, KeySpace.countUp?_congr same, same]
  by_cases version : field = "version"
  · simp [version]
  · by_cases next : field = "next_value"
    · simp [next]
    · simp [version, next]

theorem find?_begun_of_found (next : t.find? "next_value" ≠ none)
    (created : t.find? "created_at" ≠ none) : (begun t start now).find? = t.find? := by
  obtain ⟨a, next⟩ := Option.ne_none_iff_exists'.mp next
  obtain ⟨b, created⟩ := Option.ne_none_iff_exists'.mp created
  funext field
  rw [find?_begun]
  split
  · next here => rw [here, created, Option.getD_some]
  · split
    · next here => rw [here, next, Option.getD_some]
    · rfl

theorem find?_leftOver_ne_none (t : Table String String) (start : UInt64) (now : Int) :
    (leftOver t start now).find? "next_value" ≠ none := by
  rw [find?_leftOver, if_neg (by decide), if_pos (.inr rfl), KeySpace.find?_counted, if_pos rfl,
    find?_begun, if_neg (by decide), if_pos rfl]
  cases countUp? (begun t start now) "next_value" <;> exact Option.some_ne_none _

/-- A field that is counted up changes. -/
theorem find?_ne_of_countUp? {field : String} {i : Int} (up : countUp? t field = some i) :
    t.find? field ≠ some (Text.ofInt i) := by
  intro same
  have fits : Number.fits64 i = true := (Option.filter_eq_some_iff.mp up).2
  rw [KeySpace.countUp?_of_ofInt (by rw [same, Option.getD_some]) fits] at up
  split at up
  · injection up
    omega
  · cases up

theorem countUp?_eq_none_iff {field : String} :
    countUp? t field = none ↔
      (countUp? t field).elim (t.find? field) (some ∘ Text.ofInt) = t.find? field := by
  cases up : countUp? t field with
  | none => exact iff_of_true rfl rfl
  | some i => exact iff_of_false nofun (find?_ne_of_countUp? up).symm

/-- Nothing changes only where there is nothing to fill, to count up or to date. -/
theorem find?_leftOver_eq_iff : (leftOver t start now).find? = t.find? ↔ Stuck t now := by
  constructor
  · intro same
    have next : t.find? "next_value" ≠ none := same ▸ find?_leftOver_ne_none t start now
    have created : t.find? "created_at" ≠ none := by
      rw [← same, find?_leftOver, if_neg (by decide), if_neg (by decide), find?_begun, if_pos rfl]
      exact Option.some_ne_none _
    have begun : (begun t start now).find? = t.find? := find?_begun_of_found next created
    have counted (field : String) (among : field = "version" ∨ field = "next_value") :
        countUp? t field = none := by
      have kept := congrFun same field
      rw [find?_leftOver, if_neg (by grind), if_pos among, KeySpace.find?_counted, if_pos rfl,
        begun, KeySpace.countUp?_congr (congrFun begun field)] at kept
      exact countUp?_eq_none_iff.mpr kept
    constructor
    · exact ⟨next, counted _ (.inr rfl)⟩
    · exact counted _ (.inl rfl)
    · exact created
    · rw [← same, find?_leftOver, if_pos rfl]
  · intro stuck
    have begun : (begun t start now).find? = t.find? :=
      find?_begun_of_found stuck.next.1 stuck.created
    funext field
    rw [find?_leftOver, KeySpace.find?_counted, if_pos rfl, begun,
      KeySpace.countUp?_congr (congrFun begun field)]
    split
    · next here => rw [here, stuck.updated]
    · split
      · next among =>
        apply countUp?_eq_none_iff.mp
        rcases among with rfl | rfl
        · exact stuck.version
        · exact stuck.next.2
      · rfl

theorem runAll_allocation_of_text {text : String} (held : space.keys.find? key = some (.text text))
    (start : UInt64) (now : Int) :
    space.runAll (allocation key start now) = (List.replicate 5 KeySpace.wrongType, space) := by
  have fields : space.fields? key = .error KeySpace.wrongType := by rw [KeySpace.fields?, held]
  simp only [allocation, KeySpace.runAll, KeySpace.run, fields]
  rfl

theorem word?_integer_eq_zero_iff {i : Int} (fits : Number.fits64 i = true) :
    word? (.integer i) = some 0 ↔ i = 0 := by
  simp only [Number.fits64, Number.least64, Bool.and_eq_true, decide_eq_true_eq] at fits
  constructor
  · intro zero
    have taken : (i % (Number.bound64 : Int)).toNat % Number.bound64 = 0 :=
      congrArg UInt64.toNat (Option.some.inj zero)
    simp only [Number.bound64] at taken
    omega
  · rintro rfl
    rfl

theorem word?_ofInt_of_neg {i : Int} (negative : i < 0) :
    word? (.text (some (Text.ofInt i))) = none := by
  have sign : Text.readNatural? (Text.ofInt i).toList = none := by
    rw [Text.ofInt, String.toList_ofList, if_pos negative]
    rfl
  rw [word?, sign, Option.bind_none]

/-- The numeral that the server counts up is the one that is read. -/
theorem eq_of_countUp? {field : String} {i : Int} {n : UInt64} (up : countUp? t field = some i)
    (read : word? (.text (some ((t.find? field).getD "0"))) = some n) :
    i = n.toNat + 1 ∧ n.toNat + 1 < 9223372036854775808 := by
  obtain ⟨counted, fits⟩ := Option.filter_eq_some_iff.mp up
  obtain ⟨j, numeral, rfl⟩ := Option.map_eq_some_iff.mp counted
  rw [KeySpace.eq_ofInt_of_intOfText? numeral] at read
  simp only [Number.fits64, Number.least64, Bool.and_eq_true, decide_eq_true_eq] at fits
  by_cases negative : j < 0
  · rw [word?_ofInt_of_neg negative] at read
    cases read
  · obtain ⟨m, rfl⟩ := Int.eq_ofNat_of_zero_le (Int.not_lt.mp negative)
    have small : m.toUInt64.toNat = m := UInt64.toNat_ofNat_of_lt (Int.ofNat_lt.mp (by
      simp only [UInt64.size]
      omega))
    rw [← small, word?_ofInt, Option.some.injEq] at read
    rw [← read, small]
    omega

theorem optional_eq_ok_iff {α : Type} {read? : Reply → Option α} {text : Option String}
    {found : Option α} :
    optional read? (.text text) = .ok found ↔
      text.elim (found = none) fun s => found ≠ none ∧ read? (.text (some s)) = found := by
  cases text with
  | none => simp [optional, eq_comm]
  | some s =>
    rw [optional, Option.elim_some]
    · cases read? (.text (some s)) with
      | none => simp [eq_comm]
      | some a =>
        rw [Except.ok.injEq]
        refine ⟨?_, And.right⟩
        rintro rfl
        exact ⟨Option.some_ne_none a, rfl⟩
    · intro same
      cases same

theorem optional_eq_ok_none_iff {α : Type} {read? : Reply → Option α} {text : Option String} :
    optional read? (.text text) = .ok none ↔ text = none := by
  rw [optional_eq_ok_iff]
  cases text <;> simp

/-- A field that can be read is as readable when it has been counted up. -/
theorem read_counted {field : String} {v : Option UInt64}
    (read : optional word? (.text (t.find? field)) = .ok v) :
    ∃ w, optional word? (.text ((counted t field).find? field)) = .ok w ∧
      (w.getD 0).toNat = (v.getD 0).toNat + (if countUp? t field = none then 0 else 1) := by
  rw [KeySpace.find?_counted, if_pos rfl]
  cases up : countUp? t field with
  | none => exact ⟨v, read, rfl⟩
  | some i =>
    have here : word? (.text (some ((t.find? field).getD "0"))) = some (v.getD 0) := by
      rw [optional_eq_ok_iff] at read
      cases found : t.find? field with
      | none =>
        rw [found] at read
        cases read
        exact Text.ofInt_zero ▸ word?_ofInt 0
      | some text =>
        rw [found] at read
        obtain ⟨n, rfl⟩ := Option.ne_none_iff_exists'.mp read.1
        exact read.2
    obtain ⟨rfl, room⟩ := eq_of_countUp? up here
    have next : ((v.getD 0) + 1).toNat = (v.getD 0).toNat + 1 := by
      rw [UInt64.toNat_add]
      simp only [UInt64.reduceToNat]
      omega
    refine ⟨some (v.getD 0 + 1), ?_, ?_⟩
    · rw [optional_eq_ok_iff]
      refine ⟨Option.some_ne_none _, ?_⟩
      rw [← word?_ofInt, next]
      rfl
    · rw [Option.getD_some, next]
      rfl

/-- What is read from the fields of a counter. -/
structure Reads (t : Table String String) (next version : Option UInt64)
    (created updated : Option Int) : Prop where
  next : optional word? (.text (t.find? "next_value")) = .ok next
  version : optional word? (.text (t.find? "version")) = .ok version
  created : optional integer? (.text (t.find? "created_at")) = .ok created
  updated : optional integer? (.text (t.find? "updated_at")) = .ok updated

theorem counterOf_eq_ok_iff {id : InventoryId} {found : Option Counter} :
    counterOf id
        (.texts (["next_value", "version", "created_at", "updated_at"].map t.find?)) = .ok found ↔
      ∃ n v c u, Reads t n v c u ∧ found = n.map fun next =>
        { inventory := id, next, version := v.getD 0, createdAt := c.getD 0,
          updatedAt := u.getD 0 } := by
  constructor
  · intro answer
    rw [List.map_cons, List.map_cons, List.map_cons, List.map_cons, List.map_nil, counterOf]
      at answer
    cases next : optional word? (.text (t.find? "next_value")) with
    | error error => simp [next, bind, Except.bind] at answer
    | ok n =>
      cases version : optional word? (.text (t.find? "version")) with
      | error error => simp [next, version, bind, Except.bind] at answer
      | ok v =>
        cases created : optional integer? (.text (t.find? "created_at")) with
        | error error => simp [next, version, created, bind, Except.bind] at answer
        | ok c =>
          cases updated : optional integer? (.text (t.find? "updated_at")) with
          | error error => simp [next, version, created, updated, bind, Except.bind] at answer
          | ok u =>
            rw [next, version, created, updated] at answer
            exact ⟨n, v, c, u, ⟨next, version, created, updated⟩, (Except.ok.inj answer).symm⟩
  · rintro ⟨n, v, c, u, reads, rfl⟩
    rw [List.map_cons, List.map_cons, List.map_cons, List.map_cons, List.map_nil, counterOf,
      reads.next, reads.version, reads.created, reads.updated]
    rfl

theorem optional_ofInt {i : Int} (fits : Number.fits64 i = true) :
    optional integer? (.text (some (Text.ofInt i))) = .ok (some i) :=
  optional_eq_ok_iff.mpr ⟨Option.some_ne_none _, integer?_ofInt fits⟩

/-- What could be read can be read after a taking: it is counted up where the server can, and
dated. -/
theorem Reads.taken {next : UInt64} {version : Option UInt64} {created updated : Option Int}
    (reads : Reads t (some next) version created updated) (start : UInt64)
    (timed : Number.fits64 now = true) :
    ∃ next' version' created',
      Reads (leftOver t start now) (some next') version' created' (some now) ∧
      next'.toNat = next.toNat + (if countUp? t "next_value" = none then 0 else 1) ∧
      (version'.getD 0).toNat =
        (version.getD 0).toNat + (if countUp? t "version" = none then 0 else 1) := by
  have nextSame : (begun t start now).find? "next_value" = t.find? "next_value" := by
    cases held : t.find? "next_value" with
    | none =>
      have missing := reads.next
      rw [held] at missing
      cases missing
    | some text => rw [find?_begun, if_neg (by decide), if_pos rfl, held, Option.getD_some]
  have versionSame : (begun t start now).find? "version" = t.find? "version" := by
    rw [find?_begun, if_neg (by decide), if_neg (by decide)]
  obtain ⟨w, nextLeft, nextUp⟩ := read_counted (nextSame ▸ reads.next)
  obtain ⟨x, versionLeft, versionUp⟩ := read_counted (versionSame ▸ reads.version)
  rw [KeySpace.countUp?_congr nextSame] at nextUp
  rw [KeySpace.countUp?_congr versionSame] at versionUp
  have atNext := find?_leftOver t start now "next_value"
  have atVersion := find?_leftOver t start now "version"
  have atCreated := find?_leftOver t start now "created_at"
  rw [if_neg (by decide), if_pos (.inr rfl)] at atNext
  rw [if_neg (by decide), if_pos (.inl rfl)] at atVersion
  rw [if_neg (by decide), if_neg (by decide), find?_begun, if_pos rfl] at atCreated
  rw [← atNext] at nextLeft
  rw [← atVersion] at versionLeft
  obtain ⟨next', rfl⟩ : ∃ next', w = some next' := by
    apply Option.ne_none_iff_exists'.mp
    rintro rfl
    exact find?_leftOver_ne_none t start now (optional_eq_ok_none_iff.mp nextLeft)
  obtain ⟨y, createdLeft⟩ : ∃ y, optional integer?
      (.text ((leftOver t start now).find? "created_at")) = .ok y := by
    rw [atCreated]
    cases held : t.find? "created_at" with
    | none => exact ⟨some now, optional_ofInt timed⟩
    | some text => exact ⟨created, held ▸ reads.created⟩
  refine ⟨next', x, y, ⟨nextLeft, versionLeft, createdLeft, ?_⟩, nextUp, versionUp⟩
  rw [find?_leftOver, if_pos rfl]
  exact optional_ofInt timed

section

variable {k : KeyValue} {s : Server} {id : InventoryId}

theorem send_snd_of_reachable (reachable : s.isReachable = true) (commands : List Command) :
    (send commands s).2 = { s with space := (s.space.runAll commands).2 } := by
  rw [send, if_pos reachable]

theorem allocate_of_error_reply (reachable : s.isReachable = true) {start : UInt64} {now : Int}
    {replies : List Reply} {after : KeySpace}
    (ran : s.space.runAll (allocation (k.counterKey id) start now) = (replies, after))
    {reason : String} (failed : Reply.error reason ∈ replies) :
    ∃ error, (k.allocate id start now s).1 = .error error := by
  have refused : ∃ error, (send (allocation (k.counterKey id) start now) s).1 = .error error := by
    rw [send, if_pos reachable, ran]
    dsimp only
    split
    · exact ⟨_, rfl⟩
    · next fine => cases List.findSome?_eq_none_iff.mp fine _ failed
  obtain ⟨error, refused⟩ := refused
  refine ⟨error, ?_⟩
  rcases sent : send (allocation (k.counterKey id) start now) s with ⟨answer, after⟩
  rw [sent] at refused
  cases refused
  rw [allocate, sent]

/-- A taking fails where the server cannot count up one of both fields, or comes to zero. -/
theorem allocate_fails_iff (reachable : s.isReachable = true)
    (fields : s.space.fields? (k.counterKey id) = .ok t) (start : UInt64) (now : Int) :
    (∃ error, (k.allocate id start now s).1 = .error error) ↔
      countUp? t "version" = none ∨
      countUp? (begun t start now) "next_value" = none ∨
      countUp? (begun t start now) "next_value" = some 0 := by
  obtain ⟨i, j, next, version, l, after, ran, up, versionUp, -⟩ :=
    runAll_allocation_of_fields fields start now
  generalize counted : countUp? (begun t start now) "next_value" = next? at up
  generalize countUp? t "version" = version? at versionUp
  cases versionUp with
  | stuck reason =>
    have member : Reply.error reason ∈ [.integer i, .integer j, next, .error reason, .integer l] :=
      by simp
    exact iff_of_true (allocate_of_error_reply reachable ran member) (.inl rfl)
  | up n =>
    cases up with
    | stuck reason =>
      have member :
          Reply.error reason ∈ [.integer i, .integer j, .error reason, .integer n, .integer l] := by
        simp
      exact iff_of_true (allocate_of_error_reply reachable ran member) (.inr (.inl rfl))
    | up m =>
      have fits : Number.fits64 m = true := (Option.filter_eq_some_iff.mp counted).2
      have zero := word?_integer_eq_zero_iff fits
      have third : ([Reply.integer i, .integer j, .integer m, .integer n, .integer l][2]?).bind
          word? = word? (.integer m) := rfl
      rw [allocate, send_eq reachable ran (by simp)]
      dsimp only
      rw [third]
      cases word : word? (.integer m) with
      | none => cases word
      | some next =>
        rw [word, Option.some.injEq] at zero
        by_cases nothing : next = 0
        · simp [nothing, zero.mp nothing]
        · simp [nothing, mt zero.mpr nothing]

theorem counter_of_fields (reachable : s.isReachable = true)
    (fields : s.space.fields? (k.counterKey id) = .ok t) :
    (k.counter id s).1 = counterOf id
      (.texts (["next_value", "version", "created_at", "updated_at"].map t.find?)) := by
  have ran : s.space.run (.hmget (k.counterKey id)
        ["next_value", "version", "created_at", "updated_at"]) =
      (.texts (["next_value", "version", "created_at", "updated_at"].map t.find?), s.space) := by
    rw [KeySpace.run, fields]
  rw [counter, ask_eq reachable ran (by simp)]

theorem isReachable_allocate (reachable : s.isReachable = true) (start : UInt64) (now : Int) :
    (k.allocate id start now s).2.isReachable = true := by
  rw [allocate_snd, (send_snd _ s).1, reachable]

theorem find?_counterKey_allocate (reachable : s.isReachable = true)
    (fields : s.space.fields? (k.counterKey id) = .ok t) (start : UInt64) (now : Int) :
    (k.allocate id start now s).2.space.keys.find? (k.counterKey id) =
      some (.fields (leftOver t start now)) := by
  obtain ⟨i, j, next, version, l, after, ran, -, -, left⟩ :=
    runAll_allocation_of_fields fields start now
  rw [allocate_snd, send_snd_of_reachable reachable, ran]
  exact left

theorem allocate_snd_of_text (reachable : s.isReachable = true) {text : String}
    (held : s.space.keys.find? (k.counterKey id) = some (.text text)) (start : UInt64)
    (now : Int) : (k.allocate id start now s).2 = s := by
  rw [allocate_snd, send_snd_of_reachable reachable, runAll_allocation_of_text held]

theorem counter_allocate (reachable : s.isReachable = true)
    (fields : s.space.fields? (k.counterKey id) = .ok t) (start : UInt64) (now : Int) :
    (k.counter id (k.allocate id start now s).2).1 = counterOf id
      (.texts (["next_value", "version", "created_at", "updated_at"].map
        (leftOver t start now).find?)) := by
  apply counter_of_fields (isReachable_allocate reachable start now)
  rw [KeySpace.fields?, find?_counterKey_allocate reachable fields]

theorem counter_of_text (reachable : s.isReachable = true) {text : String}
    (held : s.space.keys.find? (k.counterKey id) = some (.text text)) :
    ∃ error, (k.counter id s).1 = .error error := by
  have fields : s.space.fields? (k.counterKey id) = .error KeySpace.wrongType := by
    rw [KeySpace.fields?, held]
  rw [counter, ask, send, if_pos reachable, KeySpace.runAll, KeySpace.run, fields]
  exact ⟨_, rfl⟩

/-- No inventory is without a counter after a taking. -/
theorem counter_allocate_ne_none (reachable : s.isReachable = true) (start : UInt64) (now : Int) :
    (k.counter id (k.allocate id start now s).2).1 ≠ .ok none := by
  intro absent
  rcases KeySpace.fields?_cases s.space (k.counterKey id) with ⟨text, held⟩ | ⟨t, fields⟩
  · rw [allocate_snd_of_text reachable held] at absent
    obtain ⟨error, failed⟩ := counter_of_text reachable held
    rw [failed] at absent
    cases absent
  · rw [counter_allocate reachable fields, counterOf_eq_ok_iff] at absent
    obtain ⟨n, v, c, u, reads, missing⟩ := absent
    rw [Option.map_eq_none_iff.mp missing.symm] at reads
    exact find?_leftOver_ne_none t start now (optional_eq_ok_none_iff.mp reads.next)

/-- The first taking of an inventory leaves a counter when it fails, which has counted it. -/
theorem counter_allocate_of_absent (reachable : s.isReachable = true) {start : UInt64} {now : Int}
    (timed : Number.fits64 now = true) {error : StoreError}
    (failed : (k.allocate id start now s).1 = .error error)
    (absent : s.space.keys.find? (k.counterKey id) = none) :
    (k.counter id (k.allocate id start now s).2).1 = .ok (some
      { inventory := id, next := start, version := 1, createdAt := now, updatedAt := now }) := by
  have fields : s.space.fields? (k.counterKey id) = .ok .empty := by rw [KeySpace.fields?, absent]
  have here : (begun .empty start now).find? "next_value" = some (Text.ofInt start.toNat) := rfl
  have version : countUp? .empty "version" = some 1 := by
    have zero : ((Table.empty : Table String String).find? "version").getD "0" = Text.ofInt 0 :=
      Text.ofInt_zero.symm
    rw [KeySpace.countUp?_of_ofInt zero rfl]
    rfl
  have versionSame : (begun .empty start now).find? "version" =
      (Table.empty : Table String String).find? "version" := rfl
  have stuck : countUp? (begun .empty start now) "next_value" = none := by
    rcases (allocate_fails_iff reachable fields start now).mp ⟨error, failed⟩ with
      missing | stuck | zero
    · rw [version] at missing
      cases missing
    · exact stuck
    · have counted := eq_of_countUp? zero (n := start) (by rw [here]; exact word?_ofInt start)
      omega
  rw [counter_allocate reachable fields, counterOf_eq_ok_iff]
  refine ⟨some start, some 1, some now, some now, ⟨?_, ?_, ?_, ?_⟩, rfl⟩
  · rw [find?_leftOver, if_neg (by decide), if_pos (.inr rfl), KeySpace.find?_counted, if_pos rfl,
      stuck, here, optional_eq_ok_iff]
    exact ⟨Option.some_ne_none _, word?_ofInt start⟩
  · rw [find?_leftOver, if_neg (by decide), if_pos (.inl rfl), KeySpace.find?_counted, if_pos rfl,
      KeySpace.countUp?_congr versionSame, version, optional_eq_ok_iff]
    exact ⟨Option.some_ne_none _, word?_ofInt 1⟩
  · rw [find?_leftOver, if_neg (by decide), if_neg (by decide)]
    exact optional_ofInt timed
  · rw [find?_leftOver, if_pos rfl]
    exact optional_ofInt timed

theorem content?_allocate_eq_iff (reachable : s.isReachable = true) (start : UInt64) (now : Int) :
    (k.allocate id start now s).2.space.content? (k.counterKey id) =
        s.space.content? (k.counterKey id) ↔
      (∃ text, s.space.keys.find? (k.counterKey id) = some (.text text)) ∨
      ∃ t, s.space.keys.find? (k.counterKey id) = some (.fields t) ∧ Stuck t now := by
  cases held : s.space.keys.find? (k.counterKey id) with
  | none =>
    have fields : s.space.fields? (k.counterKey id) = .ok .empty := by rw [KeySpace.fields?, held]
    rw [KeySpace.content?, KeySpace.content?, find?_counterKey_allocate reachable fields, held]
    simp
  | some stored =>
    cases stored with
    | text text =>
      rw [allocate_snd_of_text reachable held]
      simp
    | fields t =>
      have fields : s.space.fields? (k.counterKey id) = .ok t := by rw [KeySpace.fields?, held]
      rw [KeySpace.content?, KeySpace.content?, find?_counterKey_allocate reachable fields, held,
        Option.map_some, Option.map_some, Option.some.injEq, Sum.inr.injEq,
        find?_leftOver_eq_iff]
      simp

/-- A counter whose key still holds the same is read as before. -/
theorem counter_allocate_of_content? (reachable : s.isReachable = true) {start : UInt64} {now : Int}
    (same : (k.allocate id start now s).2.space.content? (k.counterKey id) =
      s.space.content? (k.counterKey id)) :
    (k.counter id (k.allocate id start now s).2).1 = (k.counter id s).1 := by
  rcases (content?_allocate_eq_iff reachable start now).mp same with ⟨text, held⟩ | ⟨t, held, stuck⟩
  · rw [allocate_snd_of_text reachable held]
  · have fields : s.space.fields? (k.counterKey id) = .ok t := by rw [KeySpace.fields?, held]
    rw [counter_allocate reachable fields, counter_of_fields reachable fields,
      find?_leftOver_eq_iff.mpr stuck]

/-- A taking that fails leaves the counter as it was only if its key holds no counter at all or none
of the five commands could change it. Otherwise there is a counter afterwards, even if there was
none, and it has counted the taking, if the server could count up its version. -/
theorem failed_taking_is_counted {k : KeyValue} {s after : Server} {id : InventoryId}
    {start : UInt64} {now : Int} {error : StoreError} (reachable : s.isReachable = true)
    (timed : Number.fits64 now = true)
    (failed : k.allocate id start now s = (.error error, after)) :
    (∀ key ≠ k.counterKey id, after.space.keys.find? key = s.space.keys.find? key) ∧
    ((after.space.content? (k.counterKey id) = s.space.content? (k.counterKey id) ∧
        (k.counter id after).1 = (k.counter id s).1) ↔
      (∃ text, s.space.keys.find? (k.counterKey id) = some (.text text)) ∨
      ∃ t, s.space.keys.find? (k.counterKey id) = some (.fields t) ∧ Stuck t now) ∧
    (k.counter id after).1 ≠ .ok none ∧
    (s.space.keys.find? (k.counterKey id) = none → (k.counter id after).1 = .ok (some
      { inventory := id, next := start, version := 1, createdAt := now, updatedAt := now })) ∧
    ∀ t c, s.space.keys.find? (k.counterKey id) = some (.fields t) →
      (k.counter id s).1 = .ok (some c) →
      ∃ d, (k.counter id after).1 = .ok (some d) ∧
        d.next.toNat = c.next.toNat + (if countUp? t "next_value" = none then 0 else 1) ∧
        d.version.toNat = c.version.toNat + (if countUp? t "version" = none then 0 else 1) := by
  have left : (k.allocate id start now s).2 = after := by rw [failed]
  have answered : (k.allocate id start now s).1 = .error error := by rw [failed]
  rw [← left]
  refine ⟨?_, ?_, ?_, ?_, ?_⟩
  · intro key away
    rw [allocate_snd]
    apply (send_snd _ s).2
    intro command member same
    rw [key?_of_mem_allocation member] at same
    exact away (Option.some.inj same).symm
  · rw [← content?_allocate_eq_iff reachable start now]
    exact and_iff_left_of_imp (counter_allocate_of_content? reachable)
  · exact counter_allocate_ne_none reachable start now
  · exact counter_allocate_of_absent reachable timed answered
  · intro t c held read
    have fields : s.space.fields? (k.counterKey id) = .ok t := by rw [KeySpace.fields?, held]
    rw [counter_of_fields reachable fields, counterOf_eq_ok_iff] at read
    obtain ⟨n, v, created, updated, reads, found⟩ := read
    obtain ⟨next, rfl, rfl⟩ := Option.map_eq_some_iff.mp found.symm
    obtain ⟨next', v', created', reads', nextUp, versionUp⟩ := reads.taken start timed
    rw [counter_allocate reachable fields]
    exact ⟨_, counterOf_eq_ok_iff.mpr ⟨_, _, _, _, reads', rfl⟩, nextUp, versionUp⟩

end

def casks : InventoryId := ⟨"casks", by decide⟩

/-- The server cannot count on from the greatest number that it counts with. -/
theorem cask_taking_fails :
    ∃ error, (KeyValue.allocate ⟨""⟩ casks maxValue 5 {}).1 = .error error := by
  apply (allocate_fails_iff rfl (t := .empty) rfl maxValue 5).mpr
  have here : ((begun .empty maxValue 5).find? "next_value").getD "0" =
    Text.ofInt 9223372036854775807 := rfl
  rw [KeySpace.countUp?_of_ofInt here rfl]
  exact .inr (.inl rfl)

theorem failed_cask_taking_is_counted :
    ∃ error after, KeyValue.allocate ⟨""⟩ casks maxValue 5 {} = (.error error, after) ∧
      (KeyValue.counter ⟨""⟩ casks after).1 = .ok (some
        { inventory := casks, next := maxValue, version := 1, createdAt := 5,
          updatedAt := 5 }) := by
  obtain ⟨error, failed⟩ := cask_taking_fails
  have taken : KeyValue.allocate ⟨""⟩ casks maxValue 5 {} =
    (.error error, (KeyValue.allocate ⟨""⟩ casks maxValue 5 {}).2) := Prod.ext failed rfl
  exact ⟨error, _, taken, (failed_taking_is_counted rfl rfl taken).2.2.2.1 rfl⟩

theorem failed_taking_starts_counter :
    ¬ ∀ (k : KeyValue) (s after : Server) (id : InventoryId) (start : UInt64) (now : Int)
      (error : StoreError), s.isReachable = true →
      k.allocate id start now s = (.error error, after) →
      after.space.content? (k.counterKey id) = s.space.content? (k.counterKey id) ∧
        (k.counter id after).1 = (k.counter id s).1 := by
  intro claim
  obtain ⟨error, failed⟩ := cask_taking_fails
  have same := (claim ⟨""⟩ {} _ casks maxValue 5 error rfl (Prod.ext failed rfl)).2
  exact counter_allocate_ne_none rfl maxValue 5 (same.trans rfl)

end KeyValue
end Mintmark.Store
