import Mintmark.Json.Value

/-!
# Writing JSON

Two layouts of one grammar: on a single line, and over indented lines with two spaces a level. In
strings only quotes, backslashes and control characters are escaped.
-/

namespace Mintmark.Json

def escape (c : Char) : List Char :=
  match c with
  | '"' => ['\\', '"']
  | '\\' => ['\\', '\\']
  | '\x08' => ['\\', 'b']
  | '\x0c' => ['\\', 'f']
  | '\n' => ['\\', 'n']
  | '\r' => ['\\', 'r']
  | '\t' => ['\\', 't']
  | c =>
    if c.toNat < 0x20 then '\\' :: 'u' :: Text.zeroPadded 4 (Text.digits 16 c.toNat) else [c]

def quoted (s : String) : List Char := '"' :: s.toList.flatMap escape ++ ['"']

namespace Value

/-- The text of values that hold no others. -/
def atom : Value → List Char
  | null => ['n', 'u', 'l', 'l']
  | bool true => ['t', 'r', 'u', 'e']
  | bool false => ['f', 'a', 'l', 's', 'e']
  | number n => n.text
  | string s => quoted s
  | array _ | object _ => []

mutual

def compact : Value → List Char
  | array items => '[' :: compactItems items ++ [']']
  | object entries => '\x7b' :: compactEntries entries ++ ['\x7d']
  | value => value.atom

def compactItems : List Value → List Char
  | [] => []
  | [item] => compact item
  | item :: rest => compact item ++ ',' :: compactItems rest

def compactEntries : List (String × Value) → List Char
  | [] => []
  | [(key, value)] => quoted key ++ ':' :: compact value
  | (key, value) :: rest => quoted key ++ ':' :: compact value ++ ',' :: compactEntries rest

end

/-- A new line at some level. -/
def newLine (level : Nat) : List Char := '\n' :: List.replicate (2 * level) ' '

mutual

def indented (level : Nat) : Value → List Char
  | array [] => ['[', ']']
  | object [] => ['\x7b', '\x7d']
  | array items => '[' :: indentedItems (level + 1) items ++ newLine level ++ [']']
  | object entries => '\x7b' :: indentedEntries (level + 1) entries ++ newLine level ++ ['\x7d']
  | value => value.atom

def indentedItems (level : Nat) : List Value → List Char
  | [] => []
  | [item] => newLine level ++ indented level item
  | item :: rest => newLine level ++ indented level item ++ ',' :: indentedItems level rest

def indentedEntries (level : Nat) : List (String × Value) → List Char
  | [] => []
  | [(key, value)] => newLine level ++ quoted key ++ ':' :: ' ' :: indented level value
  | (key, value) :: rest =>
    newLine level ++ quoted key ++ ':' :: ' ' :: indented level value
      ++ ',' :: indentedEntries level rest

end

/-- The text on a single line. -/
def text (v : Value) : String := String.ofList v.compact

/-- The text over several lines. -/
def prettyText (v : Value) : String := String.ofList (v.indented 0)

end Value
end Mintmark.Json
