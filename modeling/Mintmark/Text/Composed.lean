import Mintmark.Text.Composite
import Mintmark.Text.Mark

/-!
# Composed text

One text may be written with a composite character or with the characters it stands for, and with
its marks in different orders. The composed form is the same for all of these: every composite is
taken apart, marks are put in the order of their classes, and then all is composed again that can be.
-/

namespace Mintmark.Text

/-- A character and the class of marks it has. -/
structure Piece where
  char : Char
  order : Nat
deriving DecidableEq, Repr

namespace Piece

def ofChar (c : Char) : Piece := ⟨c, combiningClass c⟩

/-- The characters that a character is composed of in so many steps at most. -/
def apart : Nat → Char → List Char
  | 0, c => [c]
  | steps + 1, c =>
    match Composite.parts? c with
    | some (a, b) => apart steps a ++ [b]
    | none => [c]

/-- No character is composed in more steps. -/
def mostSteps : Nat := 4

/-- Puts a piece behind others, which are in reverse. A mark goes in front of marks of a greater
class. -/
def addLast (p : Piece) : List Piece → List Piece
  | [] => [p]
  | last :: before =>
    if 0 < p.order ∧ p.order < last.order then last :: addLast p before else p :: last :: before

theorem addLast_perm (p : Piece) (before : List Piece) : (addLast p before).Perm (p :: before) := by
  induction before with
  | nil => exact .refl _
  | cons last before ih =>
    rw [addLast]
    split
    · exact (ih.cons last).trans (.swap p last before)
    · exact .refl _

/-- The pieces of a text in the order of their classes. -/
def inOrder (cs : List Char) : List Piece :=
  ((cs.flatMap (apart mostSteps)).foldl (fun before c => addLast (ofChar c) before) []).reverse

end Piece

/-- A text part way through its composition. -/
structure Composing where
  /-- what is complete, in reverse -/
  output : List Char := []
  /-- the last character that is no mark -/
  base : Option Char := none
  /-- the marks behind it that it could not be composed with, in reverse -/
  marks : List Piece := []

namespace Composing

/-- The character that the base makes with a piece, if no mark of the same or a greater class is
between them. -/
def joined? (s : Composing) (p : Piece) : Option Char :=
  if s.marks.head?.all (·.order < p.order) then s.base.bind (Composite.compose? · p.char) else none

def finish (s : Composing) : List Char := s.marks.map (·.char) ++ s.base.toList ++ s.output

def take (s : Composing) (p : Piece) : Composing :=
  match s.joined? p with
  | some c => { s with base := some c }
  | none =>
    if p.order = 0 then { output := s.finish, base := some p.char }
    else { s with marks := p :: s.marks }

end Composing

/-- The composed form of a text. -/
def composed (cs : List Char) : List Char :=
  ((Piece.inOrder cs).foldl Composing.take {}).finish.reverse

end Mintmark.Text
