import Mintmark.Store.KeySpace
import Mintmark.Wire

/-!
# The store on a key-value server

A counter is a table of fields and a layout is a text. Taking a value queues five commands, so that
the value before the increment belongs to one client only. What a queued command has done stays even
if another of them fails.
-/

namespace Mintmark.Store

open Json (Decoder)

structure Server where
  space : KeySpace := {}
  isReachable : Bool := true

structure KeyValue where
  /-- what all keys of the store begin with -/
  keyStart : String

namespace KeyValue

/-- Sends commands, if the server can be reached. An error among the replies fails the whole. -/
def send (commands : List Command) : Call Server (List Reply) := fun s =>
  if s.isReachable then
    match s.space.runAll commands with
    | (replies, space) =>
      let answer := match replies.findSome? fun
          | .error reason => some reason
          | _ => none with
        | some reason => .error (.query reason)
        | none => .ok replies
      (answer, { s with space })
  else (.error (.connection "connection refused"), s)

def badReply : StoreError := .query "unexpected reply"

/-- A word of 64 bits. An integer reply is taken modulo its range. -/
def word? : Reply → Option UInt64
  | .integer i => some (i % (Number.bound64 : Int)).toNat.toUInt64
  | .text (some s) =>
    (Text.readNatural? s.toList).bind fun n => if n < Number.bound64 then some n.toUInt64 else none
  | _ => none

/-- An integer of 64 bits with its sign. -/
def integer? : Reply → Option Int
  | .integer i => some i
  | .text (some s) => Text.readInt64? s.toList
  | _ => none

/-- Nothing, or something that has to be readable. -/
def optional {α : Type} (read? : Reply → Option α) : Reply → Except StoreError (Option α)
  | .text none => .ok none
  | reply =>
    match read? reply with
    | some a => .ok (some a)
    | none => .error badReply

/-- Sends one command and reads its reply. -/
def ask {α : Type} (command : Command) (read : Reply → Except StoreError α) : Call Server α :=
  fun s =>
    match send [command] s with
    | (.ok [reply], s) => (read reply, s)
    | (.ok _, s) => (.error badReply, s)
    | (.error error, s) => (.error error, s)

variable (k : KeyValue)

def counterKey (id : InventoryId) : String := k.keyStart ++ "seq:" ++ id.text

def layoutKey (id : InventoryId) : String := k.keyStart ++ "config:" ++ id.text

/-- The commands that take a value: the counter is made first if need be. -/
def allocation (key : String) (start : UInt64) (now : Int) : List Command :=
  [.hsetnx key "next_value" (Text.ofInt start.toNat),
    .hsetnx key "created_at" (Text.ofInt now),
    .hincrby key "next_value" 1,
    .hincrby key "version" 1,
    .hset key "updated_at" (Text.ofInt now)]

def allocate (id : InventoryId) (start : UInt64) (now : Int) : Call Server UInt64 := fun s =>
  match send (allocation (k.counterKey id) start now) s with
  | (.error error, s) => (.error error, s)
  | (.ok replies, s) =>
    match (replies[2]?).bind word? with
    | none => (.error badReply, s)
    | some next =>
      if next = 0 then (.error (.query ("corrupt counter for " ++ id.text)), s)
      else (.ok (next - 1), s)

def peek (id : InventoryId) (start : UInt64) : Call Server UInt64 :=
  ask (.hget (k.counterKey id) "next_value") fun reply =>
    (optional word? reply).map (·.getD start)

/-- The counter that four fields describe; only the first has to be there. -/
def counterOf (id : InventoryId) : Reply → Except StoreError (Option Counter)
  | .texts [next, version, createdAt, updatedAt] => do
    let next ← optional word? (.text next)
    let version ← optional word? (.text version)
    let createdAt ← optional integer? (.text createdAt)
    let updatedAt ← optional integer? (.text updatedAt)
    return next.map fun next =>
      { inventory := id, next, version := version.getD 0, createdAt := createdAt.getD 0,
        updatedAt := updatedAt.getD 0 }
  | _ => .error badReply

def counter (id : InventoryId) : Call Server (Option Counter) :=
  ask (.hmget (k.counterKey id) ["next_value", "version", "created_at", "updated_at"])
    (counterOf id)

def decodeLayout : Reply → Except StoreError (Option StoredLayout)
  | .text none => .ok none
  | .text (some s) =>
    match Decoder.ofText StoredLayout.decode s with
    | .ok stored => .ok (some stored)
    | .error .grammar => .error (.serialization "malformed document")
    | .error .data => .error (.serialization "unexpected value")
  | _ => .error badReply

def backend : Backend Server where
  name := "redis"
  allocate := k.allocate
  peek := k.peek
  counter := k.counter
  save stored := ask (.set (k.layoutKey stored.inventory) stored.encode.text) fun _ => .ok ()
  load id := ask (.get (k.layoutKey id)) decodeLayout
  remove id := ask (.del (k.layoutKey id)) fun reply =>
    match word? reply with
    | some count => .ok (decide (0 < count))
    | none => .error badReply
  checkHealth := ask .ping fun _ => .ok ()

end KeyValue
end Mintmark.Store
