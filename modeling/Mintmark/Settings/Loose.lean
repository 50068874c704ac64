import Mintmark.Number.Shortest
import Mintmark.Settings.Decode
import Mintmark.Text.Blank

/-!
# Loose values

Settings from files and variables, before it is known what they are wanted for. A number may come as
text, a flag as a number, and a text may be any value that has a text form.
-/

namespace Mintmark.Settings

inductive Loose where
  | null
  | flag (b : Bool)
  /-- a whole number of 64 bits, with a sign or without -/
  | whole (i : Int)
  | real (x : Number.Binary64)
  | text (s : String)
  | list (items : List Loose)
  | table (entries : List (String × Loose))
deriving Inhabited

namespace Loose

def lower (s : String) : String := s.map Text.lower

/-- The words that stand for a flag. -/
def word? (s : String) : Option Bool :=
  match lower s with
  | "true" | "on" | "yes" => some true
  | "false" | "off" | "no" => some false
  | _ => none

def text? : Loose → Option String
  | text s => some s
  | flag b => some (if b then "true" else "false")
  | whole i => some (Text.ofInt i)
  | real x => some x.text
  | null | list _ | table _ => none

/-- Any number but zero stands for true. -/
def flag? : Loose → Option Bool
  | flag b => some b
  | whole i => some (i != 0)
  | real x => some !x.isZero
  | text "1" => some true
  | text "0" => some false
  | text s => word? s
  | null | list _ | table _ => none

/-- A natural number of 64 bits; a number with a fraction is rounded into that range. -/
def natural? : Loose → Option Nat
  | flag b => some b.toNat
  | whole i => if i < 0 then none else some i.toNat
  | real x => some (x.roundWithin 0 (Number.bound64 - 1 : Nat)).toNat
  | text s =>
    match word? s with
    | some b => some b.toNat
    | none => (Text.readNatural? s.toList).filter (· < Number.bound64)
  | null | list _ | table _ => none

/-- The name of an alternative, alone or as the only key of a table. -/
def choice? : Loose → Option String
  | text s => some s
  | table [(name, _)] => some name
  | _ => none

/-- Loose values, as far as they can be understood. -/
def model : ValueModel Loose where
  text? := text?
  flag? := flag?
  number? greatest v := v.natural?.filter (· ≤ greatest)
  choice? := choice?
  fields? names
    | table entries => some fun name => entries.lookup name
    | list items => some fun name => (names.zip items).lookup name
    | _ => none

/-- The entry of a key; nothing stands for an entry that is not there. -/
def entry (key : String) : Loose → Loose
  | table entries => (entries.lookup key).getD null
  | _ => null

/-- Replaces or adds an entry. What is no table gives way to one. -/
def put (key : String) (value : Loose) : Loose → Loose
  | table entries =>
    if (entries.lookup key).isSome then
      table (entries.map fun e => if e.1 = key then (key, value) else e)
    else table (entries ++ [(key, value)])
  | _ => table [(key, value)]

mutual

/-- Lays a value over another. Tables are merged key by key; anything else is replaced. -/
def layOver : Loose → Loose → Loose
  | table entries, table below => entriesOver entries (table below)
  | table entries, _ => entriesOver entries (table [])
  | value, _ => value

def entriesOver : List (String × Loose) → Loose → Loose
  | [], below => below
  | (key, value) :: rest, below => entriesOver rest (put key (layOver value (entry key below)) below)

end

end Loose
end Mintmark.Settings
