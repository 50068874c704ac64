import Mintmark.Format.Numeric
import Mintmark.Format.Template

/-!
# Format rules

A specifier is compiled once for the kind it belongs to. Fixed text and GUIDs have no use for one.
-/

namespace Mintmark.Format

inductive Rule where
  | plain
  | numeric (rule : NumericRule)
  | date (segments : List Segment)
deriving DecidableEq, Repr

namespace Rule

def parse (kind : Kind) (cs : List Char) : Except FormatFault Rule :=
  match kind with
  | .fixedText | .guid => .ok plain
  | .dateTime => (Template.parse cs).map date
  | .random6Digit | .random9Digit | .random20Bit | .random32Bit | .sequence =>
    (NumericRule.parse cs).map numeric

/-- The rule of a specifier for elements of one kind. -/
def compile (kind : Kind) (specifier : String) : Except Problem Rule :=
  (parse kind specifier.toList).mapError (Problem.badFormat specifier)

theorem compile_of_ignoresFormat {kind : Kind} (h : kind.ignoresFormat = true)
    (specifier : String) : compile kind specifier = .ok plain := by
  cases kind <;> first | rfl | simp [Kind.ignoresFormat] at h

end Rule
end Mintmark.Format
