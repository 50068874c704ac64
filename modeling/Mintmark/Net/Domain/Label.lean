import Mintmark.Net.Domain.Folding
import Mintmark.Net.Punycode
import Mintmark.Text.Composed
import Mintmark.Text.Direction
import Mintmark.Text.Joining

/-!
# Labels

The parts of a domain name between its points. A label with characters outside ASCII may be written
as it is or in ASCII behind four characters that say so. It starts with no combining mark, its
joiners stand where they make a difference, and in a name with text that runs to the left no label
mixes its directions.
-/

namespace Mintmark.Net.Domain

open Text (Direction Joining)

def isAscii (c : Char) : Bool := c.toNat < 0x80

/-- The most characters of a label that is not in ASCII. -/
def mostChars : Nat := 1000

/-- The most characters of such a label in ASCII. -/
def mostCoded : Nat := 2000

namespace Label

/-- Whether the last of some characters in reverse is a sign that leaves out a vowel. -/
def endsInVirama (before : List Char) : Bool :=
  before.head?.any fun c => Text.combiningClass c == Text.viramaClass

/-- How the first letter joins that is no mark. -/
def firstJoining (cs : List Char) : Joining :=
  ((cs.map Joining.ofChar).find? (· != .transparent)).getD .none

/-- Whether a joiner makes a difference behind some characters, which are in reverse, and before
others. -/
def mayJoin (before : List Char) (c : Char) (after : List Char) : Bool :=
  match c with
  | '\u200d' => endsInVirama before
  | '\u200c' =>
    endsInVirama before ||
      ((firstJoining before).joinsNext && (firstJoining after).joinsPrevious)
  | _ => true

def joinersFit : List Char → List Char → Bool
  | _, [] => true
  | before, c :: after => mayJoin before c after && joinersFit (c :: before) after

/-- What a label that is not in ASCII has to be. -/
def isWellMade (label : List Char) : Bool :=
  !label.head?.any Text.isMark && joinersFit [] label

/-- The label that some text in ASCII stands for. Nothing in it may be written in another way. -/
def ofCoded? (cs : List Char) : Option (List Char) := do
  guard (cs.all isAscii && cs.length ≤ mostCoded && cs.getLast?.all (· != '-'))
  let label ← Punycode.decode? cs
  guard (label.all fun c => foldChar? c == some [c])
  guard (Text.composed label == label && !label.all isAscii && isWellMade label)
  return label

/-- The label that a part of a name stands for. One in ASCII stands for none in ASCII again. -/
def ofPart? : List Char → Option (List Char)
  | 'x' :: 'n' :: '-' :: '-' :: cs => (ofCoded? cs).filter (!"xn--".toList.isPrefixOf ·)
  | cs =>
    if cs.all isAscii || (cs.length ≤ mostChars && isWellMade cs) then some cs else none

/-- Whether a label runs in one direction, with numbers and the like only where they cannot be
misread. -/
def keepsDirection (label : List Char) : Bool :=
  let directions := (label.map Direction.ofChar).reverse.dropWhile (· == .mark)
  match directions.getLast?, directions.head? with
  | some .leftToRight, some last =>
    (last == .leftToRight || last == .europeanNumber) && directions.all (!·.runsLeft)
  | some .rightToLeft, some last =>
    (last.runsLeft || last == .europeanNumber) && !directions.contains .leftToRight
      && !(directions.contains .arabicNumber && directions.contains .europeanNumber)
  | none, _ => label.isEmpty
  | _, _ => false

end Label
end Mintmark.Net.Domain
