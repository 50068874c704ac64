import Mintmark.Element.Basic

/-!
# Problems and findings

What can be wrong with a layout or a render, as causes. The words for a cause are chosen here and
nowhere else. A finding is a problem together with the place it was found at.
-/

namespace Mintmark

/-- Codes under which failures are reported. The thousands give the category. -/
inductive Code where
  | configurationNotFound
  | invalidConfiguration
  | tooManyElements
  | emptyConfiguration
  | badRequest
  | missingRequiredValue
  | unknownElementType
  | invalidFormatSpecifier
  | invalidOrder
  | notFound
  | storage
  | serviceUnavailable
  | allocationUnavailable
deriving DecidableEq, Repr

namespace Code

def number : Code → Nat
  | configurationNotFound => 1001
  | invalidConfiguration => 1003
  | tooManyElements => 1005
  | emptyConfiguration => 1006
  | badRequest => 3001
  | missingRequiredValue => 3002
  | unknownElementType => 3004
  | invalidFormatSpecifier => 3005
  | invalidOrder => 3006
  | notFound => 4001
  | storage => 5001
  | serviceUnavailable => 5003
  | allocationUnavailable => 5004

theorem number_injective {a b : Code} (h : a.number = b.number) : a = b := by
  cases a <;> cases b <;> first | rfl | exact absurd h (by decide)

def category (c : Code) : String :=
  match c.number / 1000 with
  | 1 => "configuration"
  | 3 => "validation"
  | 4 => "resource"
  | 5 => "internal"
  | _ => "unknown"

end Code

/-- Why a format specifier does not compile. -/
inductive FormatFault where
  | unknownRadix (letter : Char)
  | missingRadix
  | missingWidth
  | widthNotNumeric
  | zeroWidth
  | widthTooLarge (limit : Nat)
  | emptyTemplate
  | stated (text : String)
deriving DecidableEq, Repr

def FormatFault.message : FormatFault → String
  | unknownRadix letter => s!"unknown radix letter '{letter}' (expected D or X)"
  | missingRadix => "missing radix letter (expected D or X)"
  | missingWidth => "missing width"
  | widthNotNumeric => "width must be a positive integer"
  | zeroWidth => "width must be positive"
  | widthTooLarge limit => s!"width cannot exceed {limit}"
  | emptyTemplate => "date/time element requires a format"
  | stated text => text

inductive Problem where
  | unknownKind (name : String)
  | badFormat (specifier : String) (fault : FormatFault)
  | missing (field : Field)
  | tooMany (count limit : Nat)
  | noElements
  | badOrder (order count : Nat)
  /-- no value could be had from the counter -/
  | noAllocation (reason : String)
deriving DecidableEq, Repr

namespace Problem

def code : Problem → Code
  | unknownKind _ => .unknownElementType
  | badFormat .. => .invalidFormatSpecifier
  | missing _ => .missingRequiredValue
  | tooMany .. => .tooManyElements
  | noElements => .emptyConfiguration
  | badOrder .. => .invalidOrder
  | noAllocation _ => .allocationUnavailable

def name : Problem → String
  | unknownKind _ => "UnknownElementType"
  | badFormat .. => "InvalidFormatSpecifier"
  | missing _ => "MissingRequiredValue"
  | tooMany .. => "TooManyElements"
  | noElements => "EmptyConfiguration"
  | badOrder .. => "InvalidOrder"
  | noAllocation _ => "AllocationUnavailable"

def message : Problem → String
  | unknownKind name => s!"unknown element type: {name}"
  | badFormat specifier fault =>
    "invalid format specifier '" ++ specifier ++ "': " ++ fault.message
  | missing field => "missing required " ++ field.name
  | tooMany count limit => s!"too many elements: {count} (maximum {limit})"
  | noElements => "configuration has no elements"
  | badOrder order count =>
    s!"invalid element order {order} (expected a permutation of 0..{count})"
  | noAllocation reason => s!"sequence allocation unavailable: {reason}"

def isUnknownKind : Problem → Bool
  | unknownKind _ => true
  | _ => false

end Problem

structure Finding where
  /-- the position of the element concerned, if it is one element -/
  index : Option Nat := none
  field : Option Field := none
  problem : Problem
deriving DecidableEq, Repr

namespace Finding

/-- A finding about the layout as a whole. -/
def overall (problem : Problem) : Finding := { problem }

def about (index : Nat) (field : Field) (problem : Problem) : Finding :=
  { index := some index, field := some field, problem }

def message (f : Finding) : String :=
  match f.index, f.field with
  | some index, some field => s!"element {index} " ++ field.name ++ ": " ++ f.problem.message
  | some index, none => s!"element {index}: " ++ f.problem.message
  | none, _ => f.problem.message

end Finding
end Mintmark
