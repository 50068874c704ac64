import Mintmark.Settings.Variables
import Mintmark.Text.Letter
import Mintmark.Text.Numeric

/-!
# Variable files

A file of lines `NAME=value` that adds variables to the environment. A value may be quoted, and a
quoted value may run over several lines; in double quotes and without quotes a backslash escapes and
a dollar sign puts in the value of another variable. Reading stops at the first line that makes no
sense, and what was read before it counts.
-/

namespace Mintmark.Settings.VariableFile

/-- Where a line stands between its quotes. -/
inductive Context where
  | plain
  | escape
  | single
  | singleEscape
  | double
  | doubleEscape
  /-- behind a blank, where a comment can start -/
  | blank
deriving DecidableEq, Repr

namespace Context

def opening : Char → Context
  | '\\' => escape
  | '"' => double
  | '\x27' => single
  | _ => plain

/-- The context behind one more character; `none` where a comment starts. -/
def next? (c : Char) : Context → Option Context
  | blank => if c = '#' then none else some (opening c)
  | plain => some (if Text.isBlank c && c != '\n' && c != '\r' then blank else opening c)
  | escape => some plain
  | double => some (if c = '\\' then doubleEscape else if c = '"' then plain else double)
  | doubleEscape => some double
  | single => some (if c = '\\' then singleEscape else if c = '\x27' then plain else single)
  | singleEscape => some single

/-- The part of a line before its comment, and the context at the end if there is no comment. -/
def scan : Context → List Char → List Char × Option Context
  | context, [] => ([], some context)
  | context, c :: cs =>
    match context.next? c with
    | none => ([], none)
    | some context =>
      match scan context cs with
      | (kept, last) => (c :: kept, last)

end Context

/-- Leaves out the end of a line. -/
def chomp (cs : List Char) : List Char :=
  match cs.reverse with
  | '\n' :: '\r' :: rest | '\n' :: rest => rest.reverse
  | _ => cs

/-- Puts lines together as far as their quotes reach. A quote that is never closed ends the list. -/
def joined : Context → List Char → List (List Char) → List (List Char)
  | _, _, [] => []
  | context, before, line :: lines =>
    if ((before ++ line).dropWhile Text.isBlank).head? = some '#' then joined .plain [] lines
    else
      match context.scan line with
      | (kept, none) => (before ++ kept) :: joined .plain [] lines
      | (_, some .plain) => chomp (before ++ line) :: joined .plain [] lines
      | (_, some context) => joined context (before ++ line) lines

/-- The lines of a text, each with the line feed that ends it. -/
def splitLines (cs : List Char) : List (List Char) :=
  let lines := cs.splitOn '\n'
  lines.dropLast.map (· ++ ['\n']) ++ (lines.getLast?.toList.filter (· != []))

/-- The name of another variable, as far as it is read. -/
inductive Insertion where
  | none
  | bare (name : List Char)
  | braced (name : List Char)
deriving DecidableEq, Repr

/-- A value part way through, in reverse. -/
structure Unfinished where
  output : List Char := []
  single : Bool := false
  double : Bool := false
  escaped : Bool := false
  /-- behind a blank, where nothing but a comment may follow -/
  closed : Bool := false
  comment : Bool := false
  insertion : Insertion := .none

namespace Unfinished

def push (s : Unfinished) (c : Char) : Unfinished := { s with output := c :: s.output }

/-- Puts in the value of a variable whose name is in reverse. -/
def insert (env : Variables) (name : List Char) (s : Unfinished) : Unfinished :=
  let value := (env.find? (String.ofList name.reverse)).getD ""
  { s with output := value.toList.reverse ++ s.output, insertion := .none }

def isNameChar (c : Char) : Bool := Text.isLetter c || Text.isNumeric c

/-- One more character of a name, or the one that ends it. -/
def takeName (env : Variables) (c : Char) (s : Unfinished) : Unfinished :=
  match s.insertion with
  | .none => s
  | .bare name =>
    if isNameChar c then { s with insertion := .bare (c :: name) }
    else if c = '\x7b' ∧ name = [] then { s with insertion := .braced [] }
    else
      let s := s.insert env name
      if c = '$' then { s with insertion := .bare [] } else s.push c
  | .braced name =>
    if c = '\x7d' then s.insert env name else { s with insertion := .braced (c :: name) }

def unescape? : Char → Option Char
  | 'n' => some '\n'
  | c => if c == '\\' || c == '\x27' || c == '"' || c == '$' || c == ' ' then some c else none

/-- One more character, unless it cannot stand here. -/
def take? (env : Variables) (s : Unfinished) (c : Char) : Option Unfinished :=
  if s.comment then some s
  else if s.closed then
    if c = ' ' ∨ c = '\t' then some s
    else if c = '#' then some { s with comment := true }
    else none
  else if s.escaped then (unescape? c).map fun c => { s.push c with escaped := false }
  else if s.single then some (if c = '\x27' then { s with single := false } else s.push c)
  else if s.insertion ≠ .none then some (s.takeName env c)
  else if c = '$' then some { s with insertion := .bare [] }
  else if c = '\\' then some { s with escaped := true }
  else if s.double then some (if c = '"' then { s with double := false } else s.push c)
  else if c = '\x27' then some { s with single := true }
  else if c = '"' then some { s with double := true }
  else if c = ' ' ∨ c = '\t' then some { s with closed := true }
  else some (s.push c)

/-- The value, if all quotes and braces are closed. -/
def finish? (env : Variables) (s : Unfinished) : Option String :=
  let value (s : Unfinished) : String := String.ofList s.output.reverse
  if s.single || s.double then none
  else
    match s.insertion with
    | .none => some (value s)
    | .bare name => some (value (s.insert env name))
    | .braced _ => none

end Unfinished

def valueOf? (env : Variables) (cs : List Char) : Option String := do
  let s ← cs.foldlM (Unfinished.take? env) {}
  s.finish? env

def isKeyStart (c : Char) : Bool := c.isAlpha || c == '_'

def isKeyChar (c : Char) : Bool := c.isAlphanum || c == '_' || c == '.'

def dropBlanks (cs : List Char) : List Char := cs.dropWhile Text.isBlank

/-- The name at the start of a text, with what follows it and the blanks behind it. -/
def key? (cs : List Char) : Option (List Char × List Char) :=
  if cs.head?.any isKeyStart then
    some (cs.takeWhile isKeyChar, dropBlanks (cs.dropWhile isKeyChar))
  else none

def afterEquals? : List Char → Option (List Char)
  | '=' :: rest => some (dropBlanks rest)
  | _ => none

/-- The name and the text of the value of a line. The word `export` may stand in front. -/
def assignment? (cs : List Char) : Option (List Char × List Char) := do
  let (key, rest) ← key? cs
  match afterEquals? rest with
  | some value => some (key, value)
  | none =>
    if key = "export".toList then
      let (key, rest) ← key? rest
      some (key, ← afterEquals? rest)
    else none

/-- The variable of a line; the inner option is for a line without one. -/
def entry? (env : Variables) (line : List Char) : Option (Option (String × String)) :=
  let line := dropBlanks (line.reverse.dropWhile Text.isBlank).reverse
  if line = [] ∨ line.head? = some '#' then some none
  else do
    let (key, value) ← assignment? line
    let value ← if value.head? = some '#' then some "" else valueOf? env value
    return some (String.ofList key, value)

/-- Adds the variables of lines to those that there are, which stay as they are. -/
def addLines (env : Variables) : List (List Char) → Variables
  | [] => env
  | line :: lines =>
    match entry? env line with
    | none => env
    | some none => addLines env lines
    | some (some (name, value)) =>
      match env.find? name with
      | some _ => addLines env lines
      | none => addLines (env ++ [(name, value)]) lines

/-- Adds the variables of a file. -/
def add (env : Variables) (text : String) : Variables :=
  let cs := match text.toList with
    | '\ufeff' :: rest => rest
    | cs => cs
  addLines env (joined .plain [] (splitLines cs))

end Mintmark.Settings.VariableFile
