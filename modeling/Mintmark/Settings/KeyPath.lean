import Mintmark.Settings.Loose

/-!
# Key paths

A key at the top of a source may lead deeper: names divided by dots, and places in lists in square
brackets. A key that is no such path is taken as it stands.
-/

namespace Mintmark.Settings

inductive Step where
  | key (name : String)
  /-- a place in a list, counted from the end if negative -/
  | place (index : Int)
deriving DecidableEq, Repr

namespace Step

def isNameChar (c : Char) : Bool := c.isAlphanum || c == '_' || c == '-'

/-- A name, with what follows it. -/
def name? (cs : List Char) : Option (Step × List Char) :=
  match cs.takeWhile isNameChar with
  | [] => none
  | name => some (key (String.ofList name), cs.dropWhile isNameChar)

def dropBlanks (cs : List Char) : List Char := cs.dropWhile fun c => c == ' ' || c == '\t'

/-- The inside of square brackets, with what follows them. -/
def place? (cs : List Char) : Option (Step × List Char) :=
  match cs.dropWhile (· != ']') with
  | ']' :: rest =>
    let inside := dropBlanks (dropBlanks (cs.takeWhile (· != ']'))).reverse
    match inside.reverse with
    | '+' :: _ => none
    | cs => (Text.readInt64? cs).map fun i => (place i, rest)
  | _ => none

/-- What comes after the first name. -/
def next? : List Char → Option (Step × List Char)
  | '.' :: cs => name? cs
  | '[' :: cs => place? cs
  | _ => none

/-- Reads steps up to the end of a text; each takes at least one character. -/
def steps? : Nat → List Char → Option (List Step)
  | _, [] => some []
  | 0, _ :: _ => none
  | fuel + 1, cs => do
    let (step, rest) ← next? cs
    return step :: (← steps? fuel rest)

end Step

/-- The steps of a key. -/
def keyPath (key : String) : List Step :=
  let path? := do
    let (first, rest) ← Step.name? key.toList
    return first :: (← Step.steps? rest.length rest)
  path?.getD [.key key]

namespace Loose

/-- Changes an item of a list, which is filled up with nothing as far as needed. -/
def atPlace (index : Int) (change : Loose → Loose) (value : Loose) : Loose :=
  let items := match value with
    | list items => items
    | _ => []
  let start := if index < 0 then index + items.length else index
  let items := List.replicate (-start).toNat null ++ items
  let items := items ++ List.replicate (start.toNat + 1 - items.length) null
  list (items.modify start.toNat change)

/-- Lays a value over what is at the end of some steps. -/
def layAt : List Step → Loose → Loose → Loose
  | [], value, below => layOver value below
  | .key name :: steps, value, below => put name (layAt steps value (entry name below)) below
  | .place index :: steps, value, below => atPlace index (layAt steps value) below

/-- Lays the entries of a source, each at its path, over what is there. -/
def layAll (entries : List (String × Loose)) (below : Loose) : Loose :=
  entries.foldl (fun below (key, value) => layAt (keyPath key) value below) below

end Loose
end Mintmark.Settings
