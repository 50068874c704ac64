import Mintmark.Element.Basic
import Mintmark.Format.Rule
import Mintmark.Guid

/-!
# Raw values

Each element gives a raw value, which its rule then turns into text. Counters are not read here: the
value of the sequence is given.
-/

namespace Mintmark

open Format

inductive Raw where
  | text (s : String)
  | number (n : Nat)
  | guid (g : Guid)
  | instant (t : Instant)
deriving DecidableEq, Repr

/-- The largest value of a kind that is drawn uniformly from zero up. -/
def Kind.drawLimit? : Kind → Option Nat
  | .random6Digit => some 999999
  | .random9Digit => some 999999999
  | .random20Bit => some 1048575
  | .random32Bit => some (Number.bound32 - 1)
  | _ => none

namespace Raw

/-- The raw value of an element, and the words left after drawing it. -/
def generate (now : Instant) (sequence : Option UInt64) (e : Element) (w : Words) :
    Except Problem Raw × Words :=
  match e.kind with
  | .fixedText => (.ok (text e.valueText), w)
  | .random6Digit => let (n, w) := w.uniform 999999; (.ok (number n), w)
  | .random9Digit => let (n, w) := w.uniform 999999999; (.ok (number n), w)
  | .random20Bit => let (n, w) := w.uniform 1048575; (.ok (number n), w)
  | .random32Bit => let (n, w) := w.bits32; (.ok (number n), w)
  | .guid => let (g, w) := Guid.random w; (.ok (guid g), w)
  | .dateTime => (.ok (instant now), w)
  | .sequence =>
    match sequence with
    | some value => (.ok (number value.toNat), w)
    | none => (.error (.noAllocation "no sequence value for this render"), w)

/-- A value under a rule. A rule made for another sort of value has no effect. -/
def render : Raw → Rule → String
  | text s, _ => s
  | number n, .numeric rule => String.ofList (rule.text n)
  | number n, _ => String.ofList (NumericRule.natural.text n)
  | guid g, _ => String.ofList g.text
  | instant t, .date segments => String.ofList (Template.text t segments)
  | instant t, _ => t.rfc3339

end Raw
end Mintmark
