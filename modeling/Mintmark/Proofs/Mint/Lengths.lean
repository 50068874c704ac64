import Mintmark.Proofs.Calendar.Date
import Mintmark.Proofs.Format.Numerals
import Mintmark.Proofs.Mint.Pieces

/-!
# Lengths of pieces

All elements but the sequence have pieces of one length, as long as no random number outgrows its
width and the year has four digits. The piece of a sequence element never gets shorter as the number
grows, and tells the number.
-/

namespace Mintmark

open Format

namespace Format

/-- The instant is of a year with at most four digits. -/
def FourDigitYear (t : Instant) : Prop := 0 ≤ t.date.year ∧ t.date.year ≤ 9999

theorem DateField.length_text {t : Instant} (year : FourDigitYear t) (f : DateField) :
    (f.text t).length = f.spelling.length := by
  have month := Date.month_bounds (t.seconds / 86400)
  have day := Date.day_bounds (t.seconds / 86400)
  have hour := t.hour_lt
  have minute := t.minute_lt
  have second := t.second_lt
  cases f with
  | year =>
    have four : (Text.digits 10 t.date.year.natAbs).length ≤ 4 :=
      Text.length_digits_le (by decide) (by decide) (by have := year.1; have := year.2; omega)
    rw [text, if_neg (by have := year.1; omega), Text.length_zeroPadded]
    exact Nat.max_eq_left four
  | month => exact Text.length_twoDigits (Nat.lt_of_le_of_lt month.2 (by decide))
  | day => exact Text.length_twoDigits (Nat.lt_of_le_of_lt day.2 (by decide))
  | hour => exact Text.length_twoDigits (Nat.lt_trans hour (by decide))
  | minute => exact Text.length_twoDigits (Nat.lt_trans minute (by decide))
  | second => exact Text.length_twoDigits (Nat.lt_trans second (by decide))

theorem Template.length_text {t : Instant} (year : FourDigitYear t) (segments : List Segment) :
    (Template.text t segments).length = (segments.flatMap Segment.source).length := by
  unfold Template.text
  induction segments with
  | nil => rfl
  | cons segment segments ih =>
    have first : (segment.text t).length = segment.source.length := by
      cases segment with
      | literal text => rfl
      | field f => exact f.length_text year
    rw [List.flatMap_cons, List.flatMap_cons, List.length_append, List.length_append, first, ih]

end Format

theorem Guid.length_text (g : Guid) : g.text.length = 36 := by
  have digits : (Text.digits 16 g.bits.toNat).length ≤ 32 :=
    Text.length_digits_le (by decide) (by decide) g.bits.isLt
  have plain : g.plainText.length = 32 := by
    rw [plainText, Text.length_zeroPadded]
    omega
  simp only [text, List.length_append, List.length_cons, List.length_take, List.length_drop, plain]
  rfl

namespace Element

/-- No random number that the element may draw is longer than the width it asks for. -/
def Roomy (e : Element) : Prop :=
  ∀ limit rule, e.kind.drawLimit? = some limit →
    NumericRule.parse e.formatText.toList = .ok rule →
    (Text.digits rule.radix.base limit).length ≤ rule.width

/-- The instant has a year with at most four digits if the element shows it. -/
def Dated (now : Instant) (e : Element) : Prop := e.kind = .dateTime → FourDigitYear now

theorem isNumeric_of_drawLimit {kind : Kind} {limit : Nat} (drawn : kind.drawLimit? = some limit) :
    kind.isNumeric = true := by
  cases kind <;> first | rfl | cases drawn

theorem length_of_drawLimit {e : Element} (roomy : e.Roomy) {limit : Nat}
    (drawn : e.kind.drawLimit? = some limit) {now : Instant} {sequence : Option UInt64}
    {piece : String} (shows : e.Shows now sequence piece) :
    ∃ rule, NumericRule.parse e.formatText.toList = .ok rule ∧ piece.length = rule.width := by
  obtain ⟨words, raw, rest, rule, generated, compiled, rfl⟩ := shows
  obtain ⟨numeric, rfl, parsed⟩ :=
    Rule.exists_numeric_of_compile (isNumeric_of_drawLimit drawn) compiled
  obtain ⟨n, left, number, le⟩ := Raw.generate_of_drawLimit now sequence words drawn
  rw [number] at generated
  cases generated
  refine ⟨numeric, parsed, ?_⟩
  rw [Raw.render, String.length_ofList]
  exact NumericRule.length_text parsed (roomy limit numeric drawn parsed) le

theorem length_of_dateTime {e : Element} (kind : e.kind = .dateTime) {now : Instant}
    (year : FourDigitYear now) {sequence : Option UInt64} {piece : String}
    (shows : e.Shows now sequence piece) :
    ∃ segments, Template.parse e.formatText.toList = .ok segments ∧
      piece.length = (segments.flatMap Segment.source).length := by
  obtain ⟨words, raw, rest, rule, generated, compiled, rfl⟩ := shows
  simp only [Raw.generate, kind, Prod.mk.injEq, Except.ok.injEq] at generated
  rw [← generated.1]
  simp only [Compiled, Rule.compile, Rule.parse, kind] at compiled
  cases parsed : Template.parse e.formatText.toList with
  | error fault =>
    rw [parsed] at compiled
    cases compiled
  | ok segments =>
    rw [parsed] at compiled
    cases compiled
    refine ⟨segments, rfl, ?_⟩
    rw [Raw.render, String.length_ofList]
    exact Template.length_text year segments

/-- All pieces of an element that does not show the counter have one length. -/
theorem length_eq_of_shows {e : Element} (kind : e.kind ≠ .sequence) (roomy : e.Roomy)
    {now now' : Instant} {sequence sequence' : Option UInt64} {piece piece' : String}
    (dated : e.Dated now) (dated' : e.Dated now') (shows : e.Shows now sequence piece)
    (shows' : e.Shows now' sequence' piece') : piece.length = piece'.length := by
  cases drawn : e.kind.drawLimit? with
  | some limit =>
    obtain ⟨rule, parsed, length⟩ := length_of_drawLimit roomy drawn shows
    obtain ⟨rule', parsed', length'⟩ := length_of_drawLimit roomy drawn shows'
    rw [parsed] at parsed'
    cases parsed'
    rw [length, length']
  | none =>
    cases eq : e.kind with
    | dateTime =>
      obtain ⟨segments, parsed, length⟩ := length_of_dateTime eq (dated eq) shows
      obtain ⟨segments', parsed', length'⟩ := length_of_dateTime eq (dated' eq) shows'
      rw [parsed] at parsed'
      cases parsed'
      rw [length, length']
    | fixedText =>
      obtain ⟨words, raw, rest, rule, generated, -, rfl⟩ := shows
      obtain ⟨words', raw', rest', rule', generated', -, rfl⟩ := shows'
      simp only [Raw.generate, eq, Prod.mk.injEq, Except.ok.injEq] at generated generated'
      rw [← generated.1, ← generated'.1]
      rfl
    | guid =>
      obtain ⟨words, raw, rest, rule, generated, -, rfl⟩ := shows
      obtain ⟨words', raw', rest', rule', generated', -, rfl⟩ := shows'
      simp only [Raw.generate, eq, Prod.mk.injEq, Except.ok.injEq] at generated generated'
      rw [← generated.1, ← generated'.1]
      simp only [Raw.render, String.length_ofList, Guid.length_text]
    | sequence => exact absurd eq kind
    | random6Digit | random9Digit | random20Bit | random32Bit =>
      rw [eq] at drawn
      cases drawn

/-- The piece of a sequence element gets no shorter as the number grows. -/
theorem length_le_of_sequence {e : Element} (kind : e.kind = .sequence) {now now' : Instant}
    {n m : UInt64} {piece piece' : String} (le : n ≤ m) (shows : e.Shows now (some n) piece)
    (shows' : e.Shows now' (some m) piece') : piece.length ≤ piece'.length := by
  obtain ⟨rule, parsed, rfl⟩ := piece_of_sequence kind shows
  obtain ⟨rule', parsed', rfl⟩ := piece_of_sequence kind shows'
  rw [parsed] at parsed'
  cases parsed'
  simpa using rule.length_text_mono (UInt64.le_iff_toNat_le.mp le)

theorem eq_of_sequence {e : Element} (kind : e.kind = .sequence) {now now' : Instant}
    {n m : UInt64} {piece : String} (shows : e.Shows now (some n) piece)
    (shows' : e.Shows now' (some m) piece) : n = m := by
  obtain ⟨rule, parsed, rfl⟩ := piece_of_sequence kind shows
  obtain ⟨rule', parsed', same⟩ := piece_of_sequence kind shows'
  rw [parsed] at parsed'
  cases parsed'
  exact UInt64.toNat_inj.mp (rule.text_injective (String.ofList_injective same))

end Element
end Mintmark
