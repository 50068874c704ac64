import Mintmark.Text.Blank
import Mintmark.Text.Digits

/-!
# Written ranges

Large tables of code points are kept as text: code points in hexadecimal digits, and inclusive
ranges of them, with spaces between.
-/

namespace Mintmark.Text

/-- The number in some hexadecimal digits. -/
def readHex (cs : List Char) : Nat := cs.foldl (fun n c => 16 * n + (hexValue? c).getD 0) 0

/-- A range, which is a single code point or the first and the last one. -/
def readRange (cs : List Char) : Nat × Nat :=
  let parts := (cs.splitOn '-').map readHex
  (parts.headD 0, parts.getLastD 0)

/-- The ranges of some lines of text. -/
def readRanges (lines : List String) : List (Nat × Nat) :=
  lines.flatMap fun line => (line.toList.splitOn ' ').map readRange

end Mintmark.Text
