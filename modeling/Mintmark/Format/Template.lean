import Mintmark.Calendar.Instant
import Mintmark.Problem

/-!
# Date templates

A template is split from the left into date fields and literal text. Where a field can start it
does, and the longest spelling is tried first; everything between two fields is one literal. The
scan ends because each mark it finds uses up at least one character.
-/

namespace Mintmark.Format

inductive DateField where
  | year
  | month
  | day
  | hour
  | minute
  | second
deriving DecidableEq, Repr

namespace DateField

/-- The fields, longest spelling first. -/
def all : List DateField := [year, month, day, hour, minute, second]

def spelling : DateField → List Char
  | year => ['y', 'y', 'y', 'y']
  | month => ['M', 'M']
  | day => ['d', 'd']
  | hour => ['H', 'H']
  | minute => ['m', 'm']
  | second => ['s', 's']

def name : DateField → String
  | year => "Year"
  | month => "Month"
  | day => "Day"
  | hour => "Hour"
  | minute => "Minute"
  | second => "Second"

def ofName? (s : String) : Option DateField := all.find? (·.name == s)

/-- The year takes four places and the others two. The sign of a year takes one of its places. -/
def text (t : Instant) : DateField → List Char
  | year =>
    let year := t.date.year
    if year < 0 then '-' :: Text.zeroPadded 3 (Text.digits 10 year.natAbs)
    else Text.zeroPadded 4 (Text.digits 10 year.natAbs)
  | month => Text.twoDigits t.date.month
  | day => Text.twoDigits t.date.day
  | hour => Text.twoDigits t.hour
  | minute => Text.twoDigits t.minute
  | second => Text.twoDigits t.second

end DateField

inductive Segment where
  | literal (text : List Char)
  | field (f : DateField)
deriving DecidableEq, Repr

namespace Segment

/-- The part of a template that the segment was read from. -/
def source : Segment → List Char
  | literal text => text
  | field f => f.spelling

def text (t : Instant) : Segment → List Char
  | literal text => text
  | field f => f.text t

end Segment

namespace Template

/-- What follows a spelling at the start of a text. -/
def after? : List Char → List Char → Option (List Char)
  | [], cs => some cs
  | _ :: _, [] => none
  | s :: ss, c :: cs => if s = c then after? ss cs else none

theorem after?_eq_some_iff {spelling cs rest : List Char} :
    after? spelling cs = some rest ↔ cs = spelling ++ rest := by
  fun_induction after? spelling cs with
  | case1 => simp
  | case2 => simp
  | case3 s ss cs ih => simp [ih]
  | case4 s ss c cs ne =>
    simp only [reduceCtorEq, List.cons_append, List.cons.injEq, false_iff, not_and]
    intro eq; exact absurd eq.symm ne

/-- The field that starts here, with what follows it. -/
def leading? (cs : List Char) : Option (DateField × List Char) :=
  DateField.all.findSome? fun f => (after? f.spelling cs).map (f, ·)

theorem eq_append_of_leading? {cs rest : List Char} {f : DateField}
    (h : leading? cs = some (f, rest)) : cs = f.spelling ++ rest := by
  obtain ⟨g, _, found⟩ := List.exists_of_findSome?_eq_some h
  obtain ⟨_, starts, eq⟩ := Option.map_eq_some_iff.mp found
  cases eq
  exact after?_eq_some_iff.mp starts

theorem length_lt_of_leading? {cs rest : List Char} {f : DateField}
    (h : leading? cs = some (f, rest)) : rest.length < cs.length := by
  rw [eq_append_of_leading? h]
  cases f <;> simp only [DateField.spelling, List.cons_append, List.nil_append, List.length_cons] <;>
    omega

/-- Puts a character in front of the segments, joining a literal that stands there. -/
def consChar (c : Char) : List Segment → List Segment
  | .literal text :: segments => .literal (c :: text) :: segments
  | segments => .literal [c] :: segments

def scan : List Char → List Segment
  | [] => []
  | c :: cs =>
    match _h : leading? (c :: cs) with
    | some (f, rest) => .field f :: scan rest
    | none => consChar c (scan cs)
termination_by cs => cs.length
decreasing_by
  · exact length_lt_of_leading? _h
  · simp

def parse (cs : List Char) : Except FormatFault (List Segment) :=
  if cs = [] then .error .emptyTemplate else .ok (scan cs)

/-- The template filled in for one instant. -/
def text (t : Instant) (segments : List Segment) : List Char := segments.flatMap (Segment.text t)

end Template
end Mintmark.Format
