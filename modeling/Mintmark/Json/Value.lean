import Mintmark.Json.Numeral

/-!
# JSON values and trees

A value is what a program writes. A tree is what it finds in a text, and keeps apart what the text
leaves unsaid: where it breaks off, and strings and numbers that are well written but stand for
nothing. Every value is a tree.
-/

namespace Mintmark

namespace Json

inductive Value where
  | null
  | bool (b : Bool)
  | number (n : Numeral)
  | string (s : String)
  | array (items : List Value)
  | object (entries : List (String × Value))
deriving Inhabited

inductive Tree where
  | null
  | bool (b : Bool)
  | number (n : Numeral)
  | string (s : String)
  /-- `ended` says that the closing bracket is there -/
  | array (items : List Tree) (ended : Bool)
  /-- a key that is no string is the last thing looked at -/
  | object (entries : List (Tree × Tree)) (ended : Bool)
  /-- a number out of range, or a string with half a surrogate pair -/
  | unreadable
  | malformed
deriving Inhabited

namespace Value

def nat (n : Nat) : Value := number (.ofNat n)

def int (i : Int) : Value := number (.ofInt i)

def optional {α : Type} (write : α → Value) : Option α → Value
  | some a => write a
  | none => null

/-- The entry of a key; if it repeats, the last. -/
def get? (key : String) : Value → Option Value
  | object entries => (entries.reverse.find? (·.1 == key)).map (·.2)
  | _ => none

mutual

def toTree : Value → Tree
  | null => .null
  | bool b => .bool b
  | number n => .number n
  | string s => .string s
  | array items => .array (itemsToTrees items) true
  | object entries => .object (entriesToTrees entries) true

def itemsToTrees : List Value → List Tree
  | [] => []
  | item :: rest => toTree item :: itemsToTrees rest

def entriesToTrees : List (String × Value) → List (Tree × Tree)
  | [] => []
  | (key, value) :: rest => (.string key, toTree value) :: entriesToTrees rest

end

end Value

namespace Tree

/-- Whether the text of this value is there to its end. -/
def isWhole : Tree → Bool
  | array _ ended | object _ ended => ended
  | malformed => false
  | null | bool _ | number _ | string _ | unreadable => true

mutual

/-- The value of a tree, unless something in it cannot be read or it is nested too deeply. -/
def toValue? (depth : Nat) : Tree → Option Value
  | null => some .null
  | bool b => some (.bool b)
  | number n => some (.number n)
  | string s => some (.string s)
  | array items ended =>
    match depth, ended with
    | depth + 1, true => (itemsToValues? depth items).map .array
    | _, _ => none
  | object entries ended =>
    match depth, ended with
    | depth + 1, true => (entriesToValues? depth entries).map .object
    | _, _ => none
  | unreadable | malformed => none

def itemsToValues? (depth : Nat) : List Tree → Option (List Value)
  | [] => some []
  | item :: rest =>
    match toValue? depth item, itemsToValues? depth rest with
    | some item, some rest => some (item :: rest)
    | _, _ => none

def entriesToValues? (depth : Nat) : List (Tree × Tree) → Option (List (String × Value))
  | [] => some []
  | (string key, value) :: rest =>
    match toValue? depth value, entriesToValues? depth rest with
    | some value, some rest => some ((key, value) :: rest)
    | _, _ => none
  | _ :: _ => none

end

end Tree

end Json
end Mintmark
