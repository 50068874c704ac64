import Mintmark.Json.Token
import Mintmark.Json.Value

/-!
# Reading JSON

The tokens of a text are taken in one after another. Containers part way through wait in a list of
frames, innermost first, with what they hold in reverse. A token that cannot come next breaks the
text off: every container then stays without its end.
-/

namespace Mintmark.Json

inductive Frame where
  | array (items : List Tree)
  | object (entries : List (Tree × Tree))
  /-- an object whose last key still waits for its value -/
  | entry (key : Tree) (entries : List (Tree × Tree))
deriving Inhabited

/-- What may come next. -/
inductive Phase where
  /-- a value or a key, or the end of the container just opened -/
  | fresh
  /-- a value or a key -/
  | item
  | colon
  /-- a comma or the end of the container -/
  | after
deriving DecidableEq, Repr

inductive Progress where
  | within (phase : Phase) (frames : List Frame)
  /-- one value, and nothing after it -/
  | whole (tree : Tree)
  /-- as much of a value as there is, and a fault behind it -/
  | broken (tree : Tree)
deriving Inhabited

/-- The tree of a text that ends inside some containers, after a part of a value or nothing. -/
def breakOff : List Frame → Option Tree → Tree
  | [], part => part.getD .malformed
  | .array items :: frames, part =>
    breakOff frames (some (.array (part.toList ++ items).reverse false))
  | .object entries :: frames, _ => breakOff frames (some (.object entries.reverse false))
  | .entry key entries :: frames, part =>
    breakOff frames (some (.object ((key, part.getD .malformed) :: entries).reverse false))

/-- Puts a complete value where it belongs. -/
def place (tree : Tree) : List Frame → Progress
  | [] => .whole tree
  | .array items :: frames => .within .after (.array (tree :: items) :: frames)
  | .entry key entries :: frames => .within .after (.object ((key, tree) :: entries) :: frames)
  | .object entries :: frames => .broken (breakOff (.object entries :: frames) none)

namespace Token

/-- The value of a token by itself, as far as it goes. -/
def tree? : Token → Option Tree
  | null => some .null
  | bool b => some (.bool b)
  | number n => some (if n.isOutOfRange then .unreadable else .number n)
  | string (some s) => some (.string s)
  | string none => some .unreadable
  | openArray => some (.array [] false)
  | openObject => some (.object [] false)
  | closeArray | closeObject | comma | colon | bad => none

end Token

/-- Begins a value. -/
def begin (frames : List Frame) : Token → Progress
  | .openArray => .within .fresh (.array [] :: frames)
  | .openObject => .within .fresh (.object [] :: frames)
  | token =>
    match token.tree? with
    | some tree => place tree frames
    | none => .broken (breakOff frames none)

/-- Begins an entry. Only a string is a key. -/
def beginEntry (entries : List (Tree × Tree)) (frames : List Frame) (token : Token) : Progress :=
  match token, token.tree? with
  | .string _, some key => .within .colon (.entry key entries :: frames)
  | _, some key => .broken (breakOff (.entry key entries :: frames) none)
  | _, none => .broken (breakOff (.object entries :: frames) none)

def Progress.take : Progress → Token → Progress
  | .whole tree, _ => .broken tree
  | .broken tree, _ => .broken tree
  | .within .fresh (.array _ :: frames), .closeArray => place (.array [] true) frames
  | .within .fresh (.object _ :: frames), .closeObject => place (.object [] true) frames
  | .within .fresh (.object entries :: frames), token
  | .within .item (.object entries :: frames), token => beginEntry entries frames token
  | .within .fresh frames, token
  | .within .item frames, token => begin frames token
  | .within .colon frames, .colon => .within .item frames
  | .within .after (.array items :: frames), .closeArray =>
    place (.array items.reverse true) frames
  | .within .after (.object entries :: frames), .closeObject =>
    place (.object entries.reverse true) frames
  | .within .after frames, .comma => .within .item frames
  | .within _ frames, _ => .broken (breakOff frames none)

/-- What a text holds, and whether it holds that and nothing else. -/
structure Reading where
  tree : Tree
  isClean : Bool

def Progress.reading : Progress → Reading
  | .whole tree => ⟨tree, true⟩
  | .broken tree => ⟨tree, false⟩
  | .within _ frames => ⟨breakOff frames none, false⟩

/-- Reads a text as far as it makes sense. -/
def read (cs : List Char) : Reading :=
  ((tokens cs).foldl Progress.take (.within .item [])).reading

/-- How deeply arrays and objects may be nested in a value that is read whole. -/
def maxDepth : Nat := 127

/-- The only key of an object that stands for the value of a text. -/
def rawKey : String := "$serde_json::private::RawValue"

/-- The text of an object whose first key is the marked one. The text has to be a string, and there is
no other entry. -/
def rawText? : List (String × Value) → Option String
  | [(_, .string text)] => some text
  | _ => none

mutual

/-- Puts the values of texts in place of the objects that stand for them. -/
def unwrap? (valueOf? : String → Option Value) : Value → Option Value
  | .array items => (unwrapItems? valueOf? items).map .array
  | .object entries =>
    if entries.head?.any (·.1 == rawKey) then (rawText? entries).bind valueOf?
    else (unwrapEntries? valueOf? entries).map .object
  | v => some v

def unwrapItems? (valueOf? : String → Option Value) : List Value → Option (List Value)
  | [] => some []
  | item :: rest => do return (← unwrap? valueOf? item) :: (← unwrapItems? valueOf? rest)

def unwrapEntries? (valueOf? : String → Option Value) :
    List (String × Value) → Option (List (String × Value))
  | [] => some []
  | (key, value) :: rest => do
    return (key, ← unwrap? valueOf? value) :: (← unwrapEntries? valueOf? rest)

end

/-- The value of a text that holds texts up to some depth. -/
def parseWithin? : Nat → String → Option Value
  | 0, _ => none
  | fuel + 1, text => do
    let reading := read text.toList
    guard reading.isClean
    unwrap? (parseWithin? fuel) (← reading.tree.toValue? maxDepth)

/-- The value of a text. A text within it is shorter than it. -/
def parse? (text : String) : Option Value := parseWithin? (text.length + 1) text

end Mintmark.Json
