import Mintmark.Settings.Loose
import Mintmark.Toml.Scalar

/-!
# Tables of TOML under construction

A table can come to be in four ways, and each allows different additions later. A table that was
only passed on the way to another may still get a heading of its own; one that a key with points
leads through, even later, may get more such keys but no heading; and one with a heading gets
neither. A table in braces is complete at once.
-/

namespace Mintmark.Toml

open Settings (Loose)

inductive Origin where
  /-- passed on the way of a heading -/
  | passed
  /-- passed on the way of a key -/
  | pointed
  /-- named by a heading -/
  | headed
  /-- written in braces -/
  | braced
deriving DecidableEq, Repr

inductive Node where
  | value (v : Loose)
  /-- a date or a time -/
  | moment (text : String)
  | list (items : List Node)
  | table (origin : Origin) (entries : List (String × Node))
  /-- a list of tables with a heading each, of which the last is open -/
  | tables (rows : List (List (String × Node)))
deriving Inhabited

abbrev Entries := List (String × Node)

namespace Entries

def put (key : String) (node : Node) (entries : Entries) : Entries :=
  if (entries.lookup key).isSome then
    entries.map fun e => if e.1 = key then (key, node) else e
  else entries ++ [(key, node)]

/-- Changes the table at the end of a path. Tables on the way are made as they are needed; a path that
belongs to a key does not lead through tables that have a heading. -/
def within (isKey : Bool) (change : Origin → Entries → Option Entries) :
    List String → Origin → Entries → Option Entries
  | [], origin, entries => change origin entries
  | name :: path, _, entries =>
    match entries.lookup name with
    | none => do
      let origin := if isKey then .pointed else .passed
      let inner ← within isKey change path origin []
      return put name (.table origin inner) entries
    | some (.value _) | some (.moment _) | some (.list _) => none
    | some (.table origin inner) =>
      if origin == .braced || (isKey && origin == .headed) then none
      else do
        let origin := if isKey then .pointed else origin
        let inner ← within isKey change path origin inner
        return put name (.table origin inner) entries
    | some (.tables rows) => do
      let last ← within isKey change path .headed (rows.getLast?.getD [])
      return put name (.tables (rows.dropLast ++ [last])) entries

/-- Adds a value under a new key at the end of a path, which may lead through tables of keys only. -/
def addValue (path : List String) (key : String) (v : Node) (origin : Origin) (entries : Entries) :
    Option Entries :=
  within true (fun origin entries =>
    if (origin == .pointed) == path.isEmpty || (entries.lookup key).isSome then none
    else some (put key v entries)) path origin entries

/-- Gives a table its heading. -/
def addHeading (path : List String) (entries : Entries) : Option Entries :=
  match path.getLast? with
  | none => none
  | some name =>
    within false (fun _ entries =>
      match entries.lookup name with
      | none => some (put name (.table .headed []) entries)
      | some (.table .passed inner) => some (put name (.table .headed inner) entries)
      | some _ => none) path.dropLast .headed entries

/-- Begins one more table of a list. -/
def addRow (path : List String) (entries : Entries) : Option Entries :=
  match path.getLast? with
  | none => none
  | some name =>
    within false (fun _ entries =>
      match entries.lookup name with
      | none => some (put name (.tables [[]]) entries)
      | some (.tables rows) => some (put name (.tables (rows ++ [[]])) entries)
      | some _ => none) path.dropLast .headed entries

end Entries

/-- A table whose least key is this one stands for the date or the time whose text is the value of
the key. -/
def momentKey : String := "$__toml_private_datetime"

/-- What a table with the marked key stands for. -/
def momentOf? : Option Node → Option Loose
  | some (.value (.text s)) =>
    (Scalar.moment? s.toList).map fun text => .text (String.ofList text)
  | _ => none

/-- Whether a table stands for a date or a time. -/
def isMoment (entries : Entries) : Bool :=
  (entries.lookup momentKey).isSome && entries.all fun e => !(e.1 < momentKey)

mutual

/-- What a node is once nothing more is added. -/
def Node.finish? : Node → Option Loose
  | .value v => some v
  | .moment text => some (.text text)
  | .list items => (finishItems? items).map .list
  | .table _ entries =>
    if isMoment entries then momentOf? (entries.lookup momentKey)
    else (finishEntries? entries).map .table
  | .tables rows => (finishRows? rows).map .list

def finishItems? : List Node → Option (List Loose)
  | [] => some []
  | item :: rest => do return (← item.finish?) :: (← finishItems? rest)

def finishEntries? : List (String × Node) → Option (List (String × Loose))
  | [] => some []
  | (key, node) :: rest => do return (key, ← node.finish?) :: (← finishEntries? rest)

def finishRows? : List (List (String × Node)) → Option (List Loose)
  | [] => some []
  | row :: rest => do
    let row ←
      if isMoment row then momentOf? (row.lookup momentKey)
      else (finishEntries? row).map .table
    return row :: (← finishRows? rest)

end

end Mintmark.Toml
