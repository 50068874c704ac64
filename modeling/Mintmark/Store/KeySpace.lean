import Mintmark.Table
import Mintmark.Text.Digits

/-!
# Key spaces

A server of keys, each with a text or with a table of fields. Commands are run one at a time; those
that are queued are run one after another, and one that fails does not undo the others.
-/

namespace Mintmark.Store

inductive Stored where
  | text (s : String)
  | fields (t : Table String String)

structure KeySpace where
  keys : Table String Stored := .empty

inductive Command where
  | ping
  | get (key : String)
  | set (key value : String)
  | del (key : String)
  | hget (key field : String)
  | hmget (key : String) (fields : List String)
  | hset (key field value : String)
  | hsetnx (key field value : String)
  | hincrby (key field : String) (amount : Int)
deriving Repr

inductive Reply where
  | status (s : String)
  | integer (i : Int)
  | text (s : Option String)
  | texts (items : List (Option String))
  | error (reason : String)
deriving DecidableEq, Repr

namespace KeySpace

def wrongType : Reply :=
  .error "WRONGTYPE Operation against a key holding the wrong kind of value"

/-- The integer of 64 bits that a text is the numeral of. -/
def intOfText? (s : String) : Option Int :=
  (Text.readInt64? s.toList).filter fun i => Text.ofInt i == s

/-- The fields of a key; none if there is no such key. -/
def fields? (k : KeySpace) (key : String) : Except Reply (Table String String) :=
  match k.keys.find? key with
  | none => .ok .empty
  | some (.fields t) => .ok t
  | some (.text _) => .error wrongType

def putField (k : KeySpace) (key : String) (t : Table String String) (field value : String) :
    KeySpace :=
  { k with keys := k.keys.insert key (.fields (t.insert field value)) }

def increment (k : KeySpace) (key : String) (t : Table String String) (field : String)
    (amount : Int) : Reply × KeySpace :=
  match intOfText? ((t.find? field).getD "0") with
  | none => (.error "ERR hash value is not an integer", k)
  | some old =>
    let sum := old + amount
    if Number.fits64 sum then (.integer sum, k.putField key t field (Text.ofInt sum))
    else (.error "ERR increment or decrement would overflow", k)

def run (k : KeySpace) : Command → Reply × KeySpace
  | .ping => (.status "PONG", k)
  | .get key =>
    match k.keys.find? key with
    | none => (.text none, k)
    | some (.text s) => (.text (some s), k)
    | some (.fields _) => (wrongType, k)
  | .set key value => (.status "OK", { k with keys := k.keys.insert key (.text value) })
  | .del key =>
    (.integer (if k.keys.contains key then 1 else 0), { k with keys := k.keys.erase key })
  | .hget key field =>
    match k.fields? key with
    | .error reply => (reply, k)
    | .ok t => (.text (t.find? field), k)
  | .hmget key fields =>
    match k.fields? key with
    | .error reply => (reply, k)
    | .ok t => (.texts (fields.map t.find?), k)
  | .hset key field value =>
    match k.fields? key with
    | .error reply => (reply, k)
    | .ok t => (.integer (if t.contains field then 0 else 1), k.putField key t field value)
  | .hsetnx key field value =>
    match k.fields? key with
    | .error reply => (reply, k)
    | .ok t =>
      if t.contains field then (.integer 0, k) else (.integer 1, k.putField key t field value)
  | .hincrby key field amount =>
    match k.fields? key with
    | .error reply => (reply, k)
    | .ok t => k.increment key t field amount

/-- Runs queued commands and collects their replies. -/
def runAll (k : KeySpace) : List Command → List Reply × KeySpace
  | [] => ([], k)
  | command :: rest =>
    match k.run command with
    | (reply, k) =>
      match runAll k rest with
      | (replies, k) => (reply :: replies, k)

end KeySpace
end Mintmark.Store
