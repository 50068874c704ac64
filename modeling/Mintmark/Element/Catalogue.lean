import Mintmark.Element.Kind

/-!
# The catalogue of kinds

What a form shows for each kind, and what it has to ask for.
-/

namespace Mintmark

structure CatalogueEntry where
  kind : Kind
  label : String
  description : String
  helpText : String
  /-- how often the kind may occur; the length of a layout is the only bound so far -/
  maxOccurrences : Option Nat := none
deriving DecidableEq, Repr

def Kind.entry : Kind → CatalogueEntry
  | .fixedText =>
    { kind := .fixedText, label := "Fixed Text", description := "Static text"
      helpText := "Enter any text (supports Unicode characters)" }
  | .random6Digit =>
    { kind := .random6Digit, label := "6-Digit Random", description := "Random 6-digit number"
      helpText := "Format: D6 for zero-padded (e.g., 000123), X5 for hexadecimal" }
  | .random9Digit =>
    { kind := .random9Digit, label := "9-Digit Random", description := "Random 9-digit number"
      helpText := "Format: D9 for zero-padded, X8 for hexadecimal" }
  | .random20Bit =>
    { kind := .random20Bit, label := "20-bit Random", description := "20-bit random"
      helpText := "Format: D7 for zero-padded decimal, X5 for hexadecimal" }
  | .random32Bit =>
    { kind := .random32Bit, label := "32-bit Random", description := "32-bit random"
      helpText := "Format: D10 for zero-padded decimal, X8 for hexadecimal" }
  | .guid =>
    { kind := .guid, label := "GUID", description := "UUID"
      helpText := "Generates a standard UUID (e.g., 550e8400-e29b-41d4-a716-446655440000)" }
  | .dateTime =>
    { kind := .dateTime, label := "Date/Time", description := "Creation timestamp (UTC)"
      helpText := "Tokens: yyyy (year), MM (month), dd (day), HH (hour), mm (minute), " ++
        "ss (second). Example: yyyyMMdd gives 20251015" }
  | .sequence =>
    { kind := .sequence, label := "Sequence", description := "Auto-increment"
      helpText := "Format: D4 for zero-padded (e.g., 0001, 0002)" }

theorem Kind.entry_kind (k : Kind) : k.entry.kind = k := by cases k <;> rfl

def catalogue : List CatalogueEntry := Kind.all.map Kind.entry

end Mintmark
