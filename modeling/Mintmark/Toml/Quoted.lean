import Mintmark.Text.Digits

/-!
# Quoted text in TOML

Text in double quotes has escapes and text in single quotes has none; either may stand in three
quotes and then run over several lines. A quoted text is first cut off at its closing quotes and
then decoded. A line ends with a line feed, which may have a carriage return in front of it, and
the text keeps whichever it has. That every carriage return has its line feed is known beforehand.
-/

namespace Mintmark.Toml

/-- Characters that may stand in text and comments. -/
def isTextChar (c : Char) : Bool := c == '\t' || (' ' ≤ c && c != '\x7f')

/-- Characters that the end of a line consists of. -/
def isLineEnd (c : Char) : Bool := c == '\n' || c == '\r'

namespace Quoted

/-- Cuts a text at its closing quote, on the same line. -/
def untilQuote? (quote : Char) (escapes : Bool) : List Char → Option (List Char × List Char)
  | [] => none
  | c :: cs =>
    if c = quote then some ([], cs)
    else if c = '\n' then none
    else if escapes ∧ c = '\\' then
      match cs with
      | [] => none
      | e :: cs => (untilQuote? quote escapes cs).map fun (inside, rest) => (c :: e :: inside, rest)
    else (untilQuote? quote escapes cs).map fun (inside, rest) => (c :: inside, rest)

/-- What follows two quotes. -/
def afterTwo? (quote : Char) : List Char → Option (List Char)
  | a :: b :: cs => if a = quote ∧ b = quote then some cs else none
  | _ => none

/-- Cuts a text at its three closing quotes. One or two more quotes in front of them belong to it. -/
def untilThree? (quote : Char) (escapes : Bool) : List Char → Option (List Char × List Char)
  | [] => none
  | c :: cs =>
    match if c = quote then afterTwo? quote cs else none with
    | some rest =>
      let more := (rest.take 2).takeWhile (· == quote)
      some (more, rest.drop more.length)
    | none =>
      if escapes ∧ c = '\\' then
        match cs with
        | [] => none
        | e :: cs => (untilThree? quote escapes cs).map fun (inside, rest) => (c :: e :: inside, rest)
      else (untilThree? quote escapes cs).map fun (inside, rest) => (c :: inside, rest)

/-- Where the decoding stands. -/
inductive Phase where
  | plain
  | escape
  /-- inside the digits of a code point -/
  | code (left value : Nat)
  /-- behind a backslash and blanks, before the end of the line -/
  | lineEnd
  /-- in front of the first character of a later line -/
  | lineStart
deriving DecidableEq, Repr

def isBlank (c : Char) : Bool := c == ' ' || c == '\t'

def simpleEscape? : Char → Option Char
  | 'b' => some '\x08'
  | 't' => some '\t'
  | 'n' => some '\n'
  | 'f' => some '\x0c'
  | 'r' => some '\r'
  | 'e' => some '\x1b'
  | '"' => some '"'
  | '\\' => some '\\'
  | _ => none

/-- The number of digits behind the letter of an escape. -/
def codeLength? : Char → Option Nat
  | 'x' => some 2
  | 'u' => some 4
  | 'U' => some 8
  | _ => none

/-- The output so far, in reverse, and the phase. -/
abbrev State := List Char × Phase

def takePlain? (lines : Bool) (output : List Char) (c : Char) : Option State :=
  if c = '\\' then some (output, .escape)
  else if isTextChar c ∨ (lines ∧ isLineEnd c) then some (c :: output, .plain)
  else none

def takeEscape? (lines : Bool) (output : List Char) (c : Char) : Option State :=
  match simpleEscape? c, codeLength? c with
  | some c, _ => some (c :: output, .plain)
  | none, some left => some (output, .code left 0)
  | none, none =>
    if !lines then none
    else if c = '\n' then some (output, .lineStart)
    else if isBlank c ∨ c = '\r' then some (output, .lineEnd)
    else none

def takeCode? (output : List Char) (left value : Nat) (c : Char) : Option State := do
  let value := 16 * value + (← Text.hexValue? c)
  if left ≤ 1 then
    if value < 0xD800 ∨ (0xDFFF < value ∧ value < 0x110000) then
      some (Char.ofNat value :: output, .plain)
    else none
  else some (output, .code (left - 1) value)

def take? (lines : Bool) : State → Char → Option State
  | (output, .plain), c => takePlain? lines output c
  | (output, .escape), c => takeEscape? lines output c
  | (output, .code left value), c => takeCode? output left value c
  | (output, .lineEnd), c =>
    if c = '\n' then some (output, .lineStart)
    else if isBlank c ∨ c = '\r' then some (output, .lineEnd)
    else none
  | (output, .lineStart), c =>
    if isLineEnd c ∨ isBlank c then some (output, .lineStart) else takePlain? lines output c

/-- Decodes text with escapes. -/
def decode? (lines : Bool) (inside : List Char) : Option (List Char) := do
  let (output, phase) ← inside.foldlM (take? lines) ([], Phase.plain)
  match phase with
  | .plain | .lineStart => some output.reverse
  | .escape | .code .. | .lineEnd => none

/-- Text without escapes. -/
def verbatim? (lines : Bool) (inside : List Char) : Option (List Char) :=
  if inside.all fun c => isTextChar c || (lines && isLineEnd c) then some inside else none

def contents? (quote : Char) (lines : Bool) (inside : List Char) : Option (List Char) :=
  if quote = '"' then decode? lines inside else verbatim? lines inside

/-- The end of a line right behind the three opening quotes is left out. -/
def dropLineEnd : List Char → List Char
  | '\r' :: '\n' :: cs => cs
  | '\n' :: cs => cs
  | cs => cs

/-- Reads a text on one line, behind its opening quote. -/
def onLine? (quote : Char) (cs : List Char) : Option (List Char × List Char) := do
  let (inside, rest) ← untilQuote? quote (quote == '"') cs
  return (← contents? quote false inside, rest)

/-- Reads a quoted text behind its first quote. -/
def read? (quote : Char) (cs : List Char) : Option (List Char × List Char) :=
  match afterTwo? quote cs with
  | none => onLine? quote cs
  | some rest => do
    let (inside, rest) ← untilThree? quote (quote == '"') (dropLineEnd rest)
    return (← contents? quote true inside, rest)

end Quoted
end Mintmark.Toml
