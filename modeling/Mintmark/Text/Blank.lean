/-!
# Blanks and control characters

The two character classes that identifiers and fixed texts are checked against: the White_Space
property and the control characters (general category Cc).
-/

namespace Mintmark.Text

/-- A code point lies in one of some inclusive ranges. -/
def inRanges (ranges : List (Nat × Nat)) (c : Char) : Bool :=
  ranges.any fun r => r.1 ≤ c.toNat && c.toNat ≤ r.2

theorem inRanges_iff {ranges : List (Nat × Nat)} {c : Char} :
    inRanges ranges c = true ↔ ∃ r ∈ ranges, r.1 ≤ c.toNat ∧ c.toNat ≤ r.2 := by
  simp [inRanges]

def blankRanges : List (Nat × Nat) :=
  [(0x09, 0x0D), (0x20, 0x20), (0x85, 0x85), (0xA0, 0xA0), (0x1680, 0x1680), (0x2000, 0x200A),
   (0x2028, 0x2029), (0x202F, 0x202F), (0x205F, 0x205F), (0x3000, 0x3000)]

def isBlank (c : Char) : Bool := inRanges blankRanges c

theorem isBlank_of_isWhitespace {c : Char} (h : c.isWhitespace = true) : isBlank c = true := by
  simp only [Char.isWhitespace, Bool.or_eq_true, decide_eq_true_eq] at h
  rcases h with ((h | h) | h) | h <;> subst h <;> decide

def isControl (c : Char) : Bool := c.toNat < 0x20 || (0x7F ≤ c.toNat && c.toNat ≤ 0x9F)

/-- Nothing is left of a text once its blanks are trimmed away. -/
def allBlank (s : String) : Bool := s.toList.all isBlank

theorem allBlank_empty : allBlank "" = true := by decide

/-- The space characters of the ASCII table that separate words and lines. -/
def isAsciiSpace (c : Char) : Bool :=
  c == ' ' || c == '\t' || c == '\n' || c == '\x0c' || c == '\r'

/-- Lower case for comparing with names in ASCII letters. The Kelvin sign is the one other character
whose lower case is an ASCII letter. -/
def lower (c : Char) : Char := if c.toNat = 0x212A then 'k' else c.toLower

end Mintmark.Text
