import Mintmark.Toml.Node
import Mintmark.Toml.Quoted
import Mintmark.Toml.Scalar

/-!
# TOML documents

A document is a list of statements, one a line: a heading, or a key with a value. Between braces a
statement may run over several lines. Reading takes as much fuel as the text has characters, since
every step uses up at least one of them.
-/

namespace Mintmark.Toml

open Settings (Loose)

/-- Whether every carriage return has its line feed. -/
def endsLines : List Char → Bool
  | '\r' :: '\n' :: cs => endsLines cs
  | c :: cs => c != '\r' && endsLines cs
  | [] => true

/-- How deeply lists and tables in brackets and braces may be nested. -/
def maxDepth : Nat := 80

/-- How many names a key may have. -/
def maxNames : Nat := 80

def dropBlanks (cs : List Char) : List Char := cs.dropWhile Quoted.isBlank

/-- Drops a comment up to the end of its line. -/
def dropComment? : List Char → Option (List Char)
  | '#' :: cs =>
    let rest := cs.dropWhile (!isLineEnd ·)
    if (cs.takeWhile (!isLineEnd ·)).all isTextChar then some rest else none
  | cs => some cs

/-- Drops what may stand behind a statement, which ends its line. -/
def endLine? (cs : List Char) : Option (List Char) := do
  match ← dropComment? (dropBlanks cs) with
  | [] => some []
  | '\r' :: '\n' :: cs | '\n' :: cs => some cs
  | _ => none

/-- Drops blanks, comments and line ends. -/
def dropSpace? : Nat → List Char → Option (List Char)
  | 0, _ => none
  | fuel + 1, cs =>
    match dropBlanks cs with
    | '\r' :: '\n' :: cs | '\n' :: cs => dropSpace? fuel cs
    | '#' :: cs => do dropSpace? fuel (← dropComment? ('#' :: cs))
    | cs => some cs

def isBareChar (c : Char) : Bool := c.isAlphanum || c == '_' || c == '-'

/-- One name of a key. -/
def name? : List Char → Option (String × List Char)
  | [] => none
  | c :: cs =>
    if c = '"' ∨ c = '\x27' then
      (Quoted.onLine? c cs).map fun (text, rest) => (String.ofList text, rest)
    else
      match (c :: cs).takeWhile isBareChar with
      | [] => none
      | name => some (String.ofList name, (c :: cs).dropWhile isBareChar)

/-- Names with points between them. -/
def names? : Nat → List Char → Option (List String × List Char)
  | 0, _ => none
  | fuel + 1, cs => do
    let (name, rest) ← name? (dropBlanks cs)
    match dropBlanks rest with
    | '.' :: rest => do
      let (names, rest) ← names? fuel rest
      return (name :: names, rest)
    | rest => return ([name], rest)

/-- A key, with what follows it. -/
def key? (fuel : Nat) (cs : List Char) : Option (List String × List Char) :=
  (names? fuel cs).filter (·.1.length ≤ maxNames)

/-- Adds a value under a key to a table. -/
def addEntry (key : List String) (v : Node) (origin : Origin) (entries : Entries) :
    Option Entries :=
  entries.addValue key.dropLast (key.getLast?.getD "") v origin

mutual

/-- A value that may hold so many levels of lists and tables. -/
def value? : Nat → Nat → List Char → Option (Node × List Char)
  | 0, _, _ => none
  | _, _, [] => none
  | _ + 1, 0, '[' :: _ | _ + 1, 0, '\x7b' :: _ => none
  | fuel + 1, depth + 1, '[' :: cs => do items? fuel depth [] (← dropSpace? (fuel + 1) cs)
  | fuel + 1, depth + 1, '\x7b' :: cs => do entries? fuel depth [] (← dropSpace? (fuel + 1) cs)
  | _ + 1, _, c :: cs =>
    if c = '"' ∨ c = '\x27' then
      (Quoted.read? c cs).map fun (text, rest) => (.value (.text (String.ofList text)), rest)
    else
      let (word, rest) := Scalar.cut (c :: cs)
      (Scalar.ofWord? word).map fun
        | .flag b => (.value (.flag b), rest)
        | .whole i => (.value (.whole i), rest)
        | .real x => (.value (.real x), rest)
        | .moment text => (.moment text, rest)

/-- The items of a list up to its bracket, behind those in reverse that were read before. -/
def items? : Nat → Nat → List Node → List Char → Option (Node × List Char)
  | 0, _, _, _ => none
  | _ + 1, _, items, ']' :: cs => some (.list items.reverse, cs)
  | fuel + 1, depth, items, cs => do
    let (item, rest) ← value? fuel depth cs
    match ← dropSpace? (fuel + 1) rest with
    | ',' :: rest => items? fuel depth (item :: items) (← dropSpace? (fuel + 1) rest)
    | ']' :: rest => return (.list (item :: items).reverse, rest)
    | _ => none

/-- The entries of a table up to its brace, behind those that were read before. -/
def entries? : Nat → Nat → Entries → List Char → Option (Node × List Char)
  | 0, _, _, _ => none
  | _ + 1, _, entries, '\x7d' :: cs => some (.table .braced entries, cs)
  | fuel + 1, depth, entries, cs => do
    let (entries, rest) ← assignment? fuel depth entries cs
    match ← dropSpace? (fuel + 1) rest with
    | ',' :: rest => entries? fuel depth entries (← dropSpace? (fuel + 1) rest)
    | '\x7d' :: rest => return (.table .braced entries, rest)
    | _ => none

/-- A key with its value between braces, added to their table. -/
def assignment? : Nat → Nat → Entries → List Char → Option (Entries × List Char)
  | 0, _, _, _ => none
  | fuel + 1, depth, entries, cs => do
    let (key, rest) ← key? (fuel + 1) cs
    match ← dropSpace? (fuel + 1) rest with
    | '=' :: rest => do
      let (v, rest) ← value? fuel depth (← dropSpace? (fuel + 1) rest)
      return (← addEntry key v .headed entries, rest)
    | _ => none

end

/-- A document part way through: all of its tables, and the path of the open one. -/
structure Progress where
  root : Entries := []
  path : List String := []

namespace Progress

/-- Reads a key with its value into the open table. -/
def takeAssignment? (fuel : Nat) (p : Progress) (cs : List Char) : Option (Progress × List Char) := do
  let (key, rest) ← key? fuel cs
  match rest with
  | '=' :: rest => do
    let (v, rest) ← value? fuel maxDepth (dropBlanks rest)
    let root ← p.root.within false (addEntry key v) p.path .headed
    return ({ p with root }, rest)
  | _ => none

/-- Reads a heading behind its bracket. -/
def takeHeading? (fuel : Nat) (p : Progress) (cs : List Char) : Option (Progress × List Char) := do
  let (path, rest) ← key? fuel cs
  match rest with
  | ']' :: rest => return ({ root := ← p.root.addHeading path, path }, rest)
  | _ => none

/-- Reads the heading of one of several tables behind its brackets. -/
def takeRow? (fuel : Nat) (p : Progress) (cs : List Char) : Option (Progress × List Char) := do
  let (path, rest) ← key? fuel cs
  match rest with
  | ']' :: ']' :: rest => return ({ root := ← p.root.addRow path, path }, rest)
  | _ => none

def takeStatement? (fuel : Nat) (p : Progress) : List Char → Option (Progress × List Char)
  | '[' :: '[' :: cs => p.takeRow? fuel cs
  | '[' :: cs => p.takeHeading? fuel cs
  | cs => p.takeAssignment? fuel cs

def takeAll? : Nat → Progress → List Char → Option Progress
  | 0, _, _ => none
  | fuel + 1, p, cs => do
    match ← dropSpace? (fuel + 1) cs with
    | [] => some p
    | cs => do
      let (p, rest) ← p.takeStatement? fuel cs
      takeAll? fuel p (← endLine? rest)

end Progress

/-- A text without the mark that may stand at its start. -/
def dropMark : List Char → List Char
  | '\ufeff' :: cs => cs
  | cs => cs

/-- The top table of a document. -/
def parse? (text : String) : Option (List (String × Loose)) := do
  let cs := dropMark text.toList
  guard (endsLines cs)
  finishEntries? (← Progress.takeAll? (cs.length + 2) {} cs).root

end Mintmark.Toml
