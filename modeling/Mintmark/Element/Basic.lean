import Mintmark.Element.Kind

/-!
# Elements and drafts

A draft is an element as somebody submitted it: the kind is any text, and the position may be
missing. An element has a known kind and a position.
-/

namespace Mintmark

/-- The parts of an element that a problem can point at. -/
inductive Field where
  | kind
  | value
  | format
  | order
deriving DecidableEq, Repr

namespace Field

def all : List Field := [kind, value, format, order]

def name : Field → String
  | kind => "element_type"
  | value => "value"
  | format => "format"
  | order => "order"

def ofName? (s : String) : Option Field := all.find? (·.name == s)

theorem ofName?_name (f : Field) : ofName? f.name = some f := by cases f <;> decide

end Field

structure Element where
  kind : Kind
  /-- the literal text, read for fixed text only -/
  value : Option String := none
  /-- the format specifier -/
  format : Option String := none
  /-- the position within the layout, from zero -/
  order : Nat := 0
deriving DecidableEq, Repr

structure Draft where
  kind : String
  value : Option String := none
  format : Option String := none
  order : Option Nat := none
deriving DecidableEq, Repr

namespace Element

def valueText (e : Element) : String := e.value.getD ""

def formatText (e : Element) : String := e.format.getD ""

/-- A fresh element with the default specifier of its kind. Fixed text starts empty and has to be
filled in. -/
def ofKind (k : Kind) : Element :=
  { kind := k, value := if k = .fixedText then some "" else none, format := k.defaultFormat }

def toDraft (e : Element) : Draft :=
  { kind := e.kind.name, value := e.value, format := e.format, order := some e.order }

/-- The same element at another position. -/
def withOrder (e : Element) (order : Nat) : Element := { e with order }

end Element

/-- The element a draft stands for; without a position of its own it takes the one given. -/
def Draft.toElement? (d : Draft) (position : Nat) : Option Element :=
  (Kind.ofName? d.kind).map fun kind =>
    { kind, value := d.value, format := d.format, order := d.order.getD position }

theorem Draft.toElement?_toDraft (e : Element) (position : Nat) :
    e.toDraft.toElement? position = some e := by
  simp [Draft.toElement?, Element.toDraft, Kind.ofName?_name]

end Mintmark
