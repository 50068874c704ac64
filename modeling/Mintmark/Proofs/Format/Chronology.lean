import Mintmark.Proofs.Calendar.Order
import Mintmark.Proofs.Format.Templates
import Mintmark.Proofs.Mint.Lengths

/-!
# Texts in the order of time

A template with all fields, the greatest unit first, gives texts that are ordered as the instants are.
The values of the fields, read as a list, are ordered that way; and since a field always takes the
same places, the first field that differs also decides between the texts, whatever literals stand
around it.
-/

namespace Mintmark

namespace Text

theorem append_lt_append {as bs : List Char} (length : as.length = bs.length) (lt : as < bs)
    (cs ds : List Char) : as ++ cs < bs ++ ds := by
  induction as generalizing bs with
  | nil =>
    rw [List.length_eq_zero_iff.mp length.symm] at lt
    exact absurd lt (List.lt_irrefl [])
  | cons a as ih =>
    obtain ⟨b, bs, rfl⟩ := List.exists_cons_of_length_eq_add_one length.symm
    rw [List.cons_append, List.cons_append, List.cons_lt_cons_iff]
    rcases List.cons_lt_cons_iff.mp lt with first | ⟨same, rest⟩
    · exact .inl first
    · exact .inr ⟨same, ih (Nat.succ.inj length) rest⟩

end Text

namespace Format

namespace DateField

/-- The number that a field shows. -/
def value (t : Instant) : DateField → Nat
  | year => t.date.year.natAbs
  | month => t.date.month
  | day => t.date.day
  | hour => t.hour
  | minute => t.minute
  | second => t.second

/-- A field shows its value in as many places as it is spelled with. -/
theorem text_eq {t : Instant} (year : FourDigitYear t) (f : DateField) :
    f.text t = Text.zeroPadded f.spelling.length (Text.digits 10 (f.value t)) := by
  cases f with
  | year =>
    have positive : ¬ t.date.year < 0 := Int.not_lt.mpr year.1
    rw [text, if_neg positive]
    rfl
  | month | day | hour | minute | second => rfl

theorem text_lt_text {t t' : Instant} (year : FourDigitYear t) (year' : FourDigitYear t')
    {f : DateField} (lt : f.value t < f.value t') : f.text t < f.text t' := by
  have length : (f.text t).length = (f.text t').length := by
    rw [f.length_text year, f.length_text year']
  rw [f.text_eq year, f.text_eq year'] at length ⊢
  have read (n : Nat) :
      Text.readDigits? 10 (Text.zeroPadded f.spelling.length (Text.digits 10 n)) = some n :=
    Text.readDigits?_zeroPadded (by decide) (by decide) f.spelling.length n
  exact Text.lt_of_readDigits? length (read _) (read _) lt

end DateField

def Segment.field? : Segment → Option DateField
  | .literal _ => none
  | .field f => some f

namespace Template

/-- The fields of a template, from left to right. -/
def fields (segments : List Segment) : List DateField := segments.filterMap Segment.field?

/-- The values of the fields of a template, from left to right. -/
def values (t : Instant) (segments : List Segment) : List Nat :=
  (fields segments).map (DateField.value t)

variable {t t' : Instant} (year : FourDigitYear t) (year' : FourDigitYear t')
include year year'

/-- The texts are ordered as the values of the fields are. -/
theorem text_lt_text {segments : List Segment} (lt : values t segments < values t' segments) :
    text t segments < text t' segments := by
  induction segments with
  | nil => exact absurd lt (List.lt_irrefl [])
  | cons segment segments ih =>
    change segment.text t ++ text t segments < segment.text t' ++ text t' segments
    cases segment with
    | literal text => exact List.append_left_lt (ih lt)
    | field f =>
      rcases List.cons_lt_cons_iff.mp lt with first | ⟨same, rest⟩
      · apply Text.append_lt_append _ (DateField.text_lt_text year year' first)
        exact (f.length_text year).trans (f.length_text year').symm
      · have even : f.text t = f.text t' := by
          rw [f.text_eq year, f.text_eq year']
          exact congrArg (fun n => Text.zeroPadded _ (Text.digits 10 n)) same
        change f.text t ++ text t segments < f.text t' ++ text t' segments
        rw [even]
        exact List.append_left_lt (ih rest)

end Template

namespace Rule

/-- The date fields of a rule; only templates have any. -/
def fields : Rule → List DateField
  | date segments => Template.fields segments
  | plain | numeric _ => []

theorem exists_date_of_compile {s : String} {rule : Rule}
    (compiled : compile .dateTime s = .ok rule) :
    ∃ segments, rule = date segments ∧ segments.flatMap Segment.source = s.toList := by
  by_cases empty : s = ""
  · rw [empty] at compiled
    cases compiled
  · rw [Template.compile_eq_scan empty] at compiled
    cases compiled
    exact ⟨Template.scan s.toList, rfl, Template.source_scan s.toList⟩

end Rule

end Format

open Format

namespace Instant

/-- An earlier second lies on an earlier day or earlier on one day. -/
theorem day_or_second_lt {t t' : Instant} (earlier : t.seconds < t'.seconds) :
    t.seconds / 86400 < t'.seconds / 86400 ∨
      t.seconds / 86400 = t'.seconds / 86400 ∧ t.secondOfDay < t'.secondOfDay := by
  unfold secondOfDay
  omega

/-- Hours, minutes and seconds tell the order of two moments of a day. -/
theorem clock_lt {t t' : Instant} (lt : t.secondOfDay < t'.secondOfDay) :
    [t.hour, t.minute, t.second] < [t'.hour, t'.minute, t'.second] := by
  unfold hour minute second
  generalize t.secondOfDay = s at *
  generalize t'.secondOfDay = s' at *
  simp only [List.cons_lt_cons_iff, List.lt_irrefl, and_false, or_false]
  omega

theorem values_lt {t t' : Instant} (year : FourDigitYear t) (year' : FourDigitYear t')
    (earlier : t.seconds < t'.seconds) :
    [DateField.year, .month, .day, .hour, .minute, .second].map (DateField.value t) <
      [DateField.year, .month, .day, .hour, .minute, .second].map (DateField.value t') := by
  change [t.date.year.natAbs, t.date.month, t.date.day] ++ [t.hour, t.minute, t.second] <
    [t'.date.year.natAbs, t'.date.month, t'.date.day] ++ [t'.hour, t'.minute, t'.second]
  rcases t.day_or_second_lt earlier with day | ⟨day, second⟩
  · have before : t.date.Before t'.date := Date.ofDays_before day
    have positive := year.1
    have positive' := year'.1
    unfold Date.Before at before
    simp only [List.cons_append, List.cons_lt_cons_iff]
    omega
  · have same : t.date = t'.date := congrArg Date.ofDays day
    rw [same]
    exact List.append_left_lt (clock_lt second)

/-- What a template shows of an instant are parts of its whole second. -/
theorem text_eq_of_seconds {t t' : Instant} (same : t.seconds = t'.seconds)
    (segments : List Segment) : Template.text t segments = Template.text t' segments := by
  obtain ⟨seconds, nanos⟩ := t
  obtain ⟨seconds, nanos'⟩ := t'
  subst same
  have field (f : DateField) : f.text ⟨seconds, nanos⟩ = f.text ⟨seconds, nanos'⟩ := by
    cases f <;> rfl
  apply List.flatMap_congr
  intro segment _
  cases segment with
  | literal text => rfl
  | field f => exact field f

end Instant

namespace Raw

/-- Under a template with all fields, the greatest unit first, and any literals: the texts of two
instants are as long as the template, that of the earlier second comes first, and instants have one
text exactly if they share their second. -/
theorem full_dates_sort_chronologically {s : String} {rule : Rule}
    (compiled : Rule.compile .dateTime s = .ok rule)
    (full : rule.fields = [.year, .month, .day, .hour, .minute, .second]) {t t' : Instant}
    (year : FourDigitYear t) (year' : FourDigitYear t') :
    (((instant t).render rule).length = s.length ∧
      ((instant t').render rule).length = s.length) ∧
    (t.seconds < t'.seconds → (instant t).render rule < (instant t').render rule) ∧
    (t.seconds = t'.seconds → (instant t).render rule = (instant t').render rule) ∧
    ((instant t).render rule = (instant t').render rule → t.seconds = t'.seconds) := by
  obtain ⟨segments, rfl, source⟩ := Rule.exists_date_of_compile compiled
  have render (t : Instant) :
      (instant t).render (.date segments) = String.ofList (Template.text t segments) := rfl
  have length {t : Instant} (year : FourDigitYear t) :
      ((instant t).render (.date segments)).length = s.length := by
    rw [render, String.length_ofList, Template.length_text year, source, String.length_toList]
  have sorted {t t' : Instant} (year : FourDigitYear t) (year' : FourDigitYear t')
      (earlier : t.seconds < t'.seconds) :
      (instant t).render (.date segments) < (instant t').render (.date segments) := by
    have values := Instant.values_lt year year' earlier
    rw [← full] at values
    rw [render, render, String.lt_iff, String.toList_ofList, String.toList_ofList]
    exact Template.text_lt_text year year' values
  refine ⟨⟨length year, length year'⟩, sorted year year', fun same => ?_, fun same => ?_⟩
  · rw [render, render, Instant.text_eq_of_seconds same]
  · rcases Int.lt_trichotomy t.seconds t'.seconds with earlier | same' | later
    · have before := sorted year year' earlier
      rw [same] at before
      exact absurd before (String.lt_irrefl _)
    · exact same'
    · have before := sorted year' year later
      rw [same] at before
      exact absurd before (String.lt_irrefl _)

/-- The leap second at the end of 2016 has the text of the second before, and the new year comes
after it. -/
theorem new_year_after_leap_second :
    ∃ rule, Rule.compile .dateTime "<yyyy-MM-dd HH:mm:ss>" = .ok rule ∧
      rule.fields = [.year, .month, .day, .hour, .minute, .second] ∧
      FourDigitYear ⟨1483228799, 1500000000⟩ ∧ FourDigitYear ⟨1483228800, 0⟩ ∧
      ((instant ⟨1483228799, 1500000000⟩).render rule).length = 21 ∧
      (instant ⟨1483228799, 1500000000⟩).render rule = (instant ⟨1483228799, 0⟩).render rule ∧
      (instant ⟨1483228799, 1500000000⟩).render rule < (instant ⟨1483228800, 0⟩).render rule := by
  have compiled := Template.compile_eq_scan (s := "<yyyy-MM-dd HH:mm:ss>") (by decide)
  have full : (Rule.date (Template.scan "<yyyy-MM-dd HH:mm:ss>".toList)).fields =
      [.year, .month, .day, .hour, .minute, .second] := by
    decide +kernel
  have old : FourDigitYear ⟨1483228799, 1500000000⟩ := ⟨by decide, by decide⟩
  have old' : FourDigitYear ⟨1483228799, 0⟩ := ⟨by decide, by decide⟩
  have new : FourDigitYear ⟨1483228800, 0⟩ := ⟨by decide, by decide⟩
  obtain ⟨⟨length, -⟩, -, shared, -⟩ := full_dates_sort_chronologically compiled full old old'
  obtain ⟨-, sorted, -⟩ := full_dates_sort_chronologically compiled full old new
  exact ⟨_, compiled, full, old, new, length, shared rfl, sorted (by decide)⟩

end Raw
end Mintmark
