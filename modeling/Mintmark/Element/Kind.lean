/-!
# Kinds of elements

An element contributes one piece of an identifier. Its kind says where the piece comes from.
-/

namespace Mintmark

inductive Kind where
  /-- literal text -/
  | fixedText
  /-- uniform below one million -/
  | random6Digit
  /-- uniform below one thousand million -/
  | random9Digit
  /-- twenty random bits -/
  | random20Bit
  /-- thirty-two random bits -/
  | random32Bit
  /-- a random 128-bit identifier -/
  | guid
  /-- the moment of rendering -/
  | dateTime
  /-- the next value of the inventory's counter -/
  | sequence
deriving DecidableEq, Repr

namespace Kind

/-- Every kind, in the order of the catalogue. -/
def all : List Kind :=
  [fixedText, random6Digit, random9Digit, random20Bit, random32Bit, guid, dateTime, sequence]

theorem mem_all (k : Kind) : k ∈ all := by cases k <;> decide

def name : Kind → String
  | fixedText => "FIXED_TEXT"
  | random6Digit => "RANDOM_6DIGIT"
  | random9Digit => "RANDOM_9DIGIT"
  | random20Bit => "RANDOM_20BIT"
  | random32Bit => "RANDOM_32BIT"
  | guid => "GUID"
  | dateTime => "DATE_TIME"
  | sequence => "SEQUENCE"

def ofName? (s : String) : Option Kind := all.find? (·.name == s)

theorem ofName?_name (k : Kind) : ofName? k.name = some k := by cases k <;> decide

theorem name_of_ofName? {s : String} {k : Kind} (h : ofName? s = some k) : k.name = s := by
  simpa using List.find?_some h

/-- Values of this kind are integers and go through a numeric rule. -/
def isNumeric : Kind → Bool
  | random6Digit | random9Digit | random20Bit | random32Bit | sequence => true
  | fixedText | guid | dateTime => false

/-- The kinds whose specifier plays no part. -/
def ignoresFormat : Kind → Bool
  | fixedText | guid => true
  | _ => false

/-- The specifier of a newly added element. -/
def defaultFormat : Kind → Option String
  | dateTime => some "yyyyMMdd"
  | k => if k.isNumeric then some "D6" else none

def requiresValue (k : Kind) : Bool := k == fixedText

def requiresFormat (k : Kind) : Bool := k.isNumeric || k == dateTime

end Kind
end Mintmark
