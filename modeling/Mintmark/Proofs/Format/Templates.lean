import Mintmark.Format.Rule

/-!
# How templates are split

The segments of a template give the template back, literals are as long as they can be, and no field
could be read anywhere in one. A text has one split of this kind, so these conditions say which
segments a template has without saying how it is scanned.
-/

namespace Mintmark.Format

namespace Template

theorem after?_eq_none_iff {spelling cs : List Char} :
    after? spelling cs = none ↔ ¬ spelling <+: cs := by
  rw [Option.eq_none_iff_forall_ne_some]
  constructor
  · rintro never ⟨rest, rfl⟩
    exact never rest (after?_eq_some_iff.mpr rfl)
  · intro apart rest starts
    exact apart ⟨rest, (after?_eq_some_iff.mp starts).symm⟩

theorem leading?_eq_none_iff {cs : List Char} :
    leading? cs = none ↔ ∀ f : DateField, ¬ f.spelling <+: cs := by
  simp only [leading?, List.findSome?_eq_none_iff, Option.map_eq_none_iff, after?_eq_none_iff]
  refine ⟨fun none f => none f ?_, fun none f _ => none f⟩
  cases f <;> decide

/-- No two spellings start alike, so the field that is read is the one that is written. -/
theorem leading?_spelling (f : DateField) (rest : List Char) :
    leading? (f.spelling ++ rest) = some (f, rest) := by
  cases f <;> rfl

/-- No field starts at a character of the text while the rest stands behind it. -/
def Unread (text rest : List Char) : Prop :=
  ∀ i < text.length, ∀ f : DateField, ¬ f.spelling <+: text.drop i ++ rest

theorem unread_cons {c : Char} {text rest : List Char} :
    Unread (c :: text) rest ↔ leading? (c :: (text ++ rest)) = none ∧ Unread text rest := by
  rw [leading?_eq_none_iff, Unread, List.length_cons, Nat.forall_lt_succ_left]
  rfl

/-- No literal is empty, none stands beside another, and at no character of one could a field be
read. -/
structure Canonical (segments : List Segment) : Prop where
  filled : .literal [] ∉ segments
  apart : ∀ before first second after,
    segments ≠ before ++ .literal first :: .literal second :: after
  unread : ∀ before text after, segments = before ++ .literal text :: after →
    Unread text (after.flatMap Segment.source)

/-- The segments begin with a field, if there are any. -/
def FieldFirst (segments : List Segment) : Prop := ∀ text, segments.head? ≠ some (.literal text)

theorem canonical_nil : Canonical [] where
  filled := List.not_mem_nil
  apart := by simp
  unread := by simp

theorem Canonical.tail {segment : Segment} {segments : List Segment}
    (canonical : Canonical (segment :: segments)) : Canonical segments where
  filled member := canonical.filled (.tail _ member)
  apart before first second after same :=
    canonical.apart (segment :: before) first second after (congrArg (segment :: ·) same)
  unread before text after same :=
    canonical.unread (segment :: before) text after (congrArg (segment :: ·) same)

theorem Canonical.fieldFirst {text : List Char} {segments : List Segment}
    (canonical : Canonical (.literal text :: segments)) : FieldFirst segments := by
  intro other first
  obtain ⟨after, rfl⟩ := List.head?_eq_some_iff.mp first
  exact canonical.apart [] text other after rfl

theorem Canonical.field (f : DateField) {segments : List Segment}
    (canonical : Canonical segments) : Canonical (.field f :: segments) where
  filled := by simpa using canonical.filled
  apart before first second after same := by
    obtain ⟨-, eq⟩ | ⟨before, -, eq⟩ := List.cons_eq_append_iff.mp same
    · cases eq
    · exact canonical.apart before first second after eq
  unread before text after same := by
    obtain ⟨-, eq⟩ | ⟨before, -, eq⟩ := List.cons_eq_append_iff.mp same
    · cases eq
    · exact canonical.unread before text after eq

theorem Canonical.literal {text : List Char} (filled : text ≠ []) {segments : List Segment}
    (unread : Unread text (segments.flatMap Segment.source)) (first : FieldFirst segments)
    (canonical : Canonical segments) : Canonical (.literal text :: segments) where
  filled := by simpa [filled.symm] using canonical.filled
  apart before first second after same := by
    obtain ⟨-, eq⟩ | ⟨before, -, eq⟩ := List.cons_eq_append_iff.mp same
    · cases eq
      exact first second rfl
    · exact canonical.apart before first second after eq
  unread before other after same := by
    obtain ⟨-, eq⟩ | ⟨before, -, eq⟩ := List.cons_eq_append_iff.mp same
    · cases eq
      exact unread
    · exact canonical.unread before other after eq

/-! ## What a scan gives is canonical -/

theorem source_consChar (c : Char) (segments : List Segment) :
    (consChar c segments).flatMap Segment.source = c :: segments.flatMap Segment.source := by
  unfold consChar
  split <;> rfl

/-- Nothing of a template is lost. -/
theorem source_scan (cs : List Char) : (scan cs).flatMap Segment.source = cs := by
  fun_induction scan cs with
  | case1 => rfl
  | case2 c cs f rest found ih =>
    rw [List.flatMap_cons, ih]
    exact (eq_append_of_leading? found).symm
  | case3 c cs none ih => rw [source_consChar, ih]

/-- A character at which no field starts goes to the literal behind it, or is one by itself. -/
theorem Canonical.consChar {c : Char} {segments : List Segment}
    (unread : leading? (c :: segments.flatMap Segment.source) = none)
    (canonical : Canonical segments) : Canonical (consChar c segments) := by
  unfold Template.consChar
  split
  · next text segments =>
    apply Canonical.literal (List.cons_ne_nil c text) _ canonical.fieldFirst canonical.tail
    exact unread_cons.mpr ⟨unread, canonical.unread [] text segments rfl⟩
  · next apart =>
    apply Canonical.literal (List.cons_ne_nil c []) _ _ canonical
    · exact unread_cons.mpr ⟨unread, nofun⟩
    · intro text first
      obtain ⟨after, rfl⟩ := List.head?_eq_some_iff.mp first
      exact apart text after rfl

theorem canonical_scan (cs : List Char) : Canonical (scan cs) := by
  fun_induction scan cs with
  | case1 => exact canonical_nil
  | case2 c cs f rest found ih => exact ih.field f
  | case3 c cs none ih =>
    apply ih.consChar
    rw [source_scan, none]

/-! ## A canonical split is what a scan gives -/

theorem scan_of_field {c : Char} {cs rest : List Char} {f : DateField}
    (found : leading? (c :: cs) = some (f, rest)) : scan (c :: cs) = .field f :: scan rest := by
  rw [scan]
  split
  · next other _ starts =>
    cases starts.symm.trans found
    rfl
  · next none => cases none.symm.trans found

theorem scan_of_none {c : Char} {cs : List Char} (none : leading? (c :: cs) = none) :
    scan (c :: cs) = consChar c (scan cs) := by
  rw [scan]
  split
  · next starts => cases starts.symm.trans none
  · rfl

theorem scan_spelling (f : DateField) (cs : List Char) :
    scan (f.spelling ++ cs) = .field f :: scan cs := by
  have found := leading?_spelling f cs
  cases start : f.spelling ++ cs with
  | nil => cases f <;> cases start
  | cons c rest =>
    rw [start] at found
    exact scan_of_field found

theorem consChar_of_fieldFirst {c : Char} {segments : List Segment} (first : FieldFirst segments) :
    consChar c segments = .literal [c] :: segments := by
  unfold consChar
  split
  · next text _ => exact absurd rfl (first text)
  · rfl

/-- Text at which no field starts is one literal, up to the next field. -/
theorem scan_append {text cs : List Char} (filled : text ≠ []) (unread : Unread text cs)
    (first : FieldFirst (scan cs)) : scan (text ++ cs) = .literal text :: scan cs := by
  induction text with
  | nil => exact absurd rfl filled
  | cons c text ih =>
    obtain ⟨none, unread⟩ := unread_cons.mp unread
    rw [List.cons_append, scan_of_none none]
    -- the last character begins the literal, and those before it join it one by one
    cases text with
    | nil => exact consChar_of_fieldFirst first
    | cons d text => rw [ih (List.cons_ne_nil d text) unread, consChar]

/-- The split of a text is determined by the conditions on it. -/
theorem scan_source {segments : List Segment} (canonical : Canonical segments) :
    scan (segments.flatMap Segment.source) = segments := by
  induction segments with
  | nil => rw [List.flatMap_nil, scan]
  | cons segment segments ih =>
    have rest := ih canonical.tail
    rw [List.flatMap_cons]
    cases segment with
    | field f => rw [Segment.source, scan_spelling, rest]
    | literal text =>
      have filled : text ≠ [] := by
        rintro rfl
        exact canonical.filled List.mem_cons_self
      rw [Segment.source, scan_append filled (canonical.unread [] text segments rfl), rest]
      rw [rest]
      exact canonical.fieldFirst

theorem compile_eq_scan {s : String} (nonempty : s ≠ "") :
    Rule.compile .dateTime s = .ok (.date (scan s.toList)) := by
  have filled : s.toList ≠ [] := by rwa [ne_eq, String.toList_eq_nil_iff]
  simp only [Rule.compile, Rule.parse, parse, if_neg filled]
  rfl

/-- Every template compiles, to segments that give it back and are canonical. Canonical segments are
what the text that they give compiles to, so no other segments that give this text are. -/
theorem templates_compile_to_canonical_segments :
    (∀ s : String, s ≠ "" → ∃ segments, Rule.compile .dateTime s = .ok (.date segments) ∧
      segments.flatMap Segment.source = s.toList ∧ Canonical segments) ∧
    (∀ segments, segments ≠ [] → Canonical segments →
      Rule.compile .dateTime (String.ofList (segments.flatMap Segment.source)) =
        .ok (.date segments)) ∧
    ∀ segments others, Canonical segments → Canonical others →
      segments.flatMap Segment.source = others.flatMap Segment.source → segments = others := by
  refine ⟨fun s nonempty => ?_, fun segments nonempty canonical => ?_,
    fun segments others canonical canonical' same => ?_⟩
  · exact ⟨scan s.toList, compile_eq_scan nonempty, source_scan s.toList, canonical_scan s.toList⟩
  · have back := scan_source canonical
    have filled : String.ofList (segments.flatMap Segment.source) ≠ "" := by
      intro empty
      rw [← String.toList_eq_nil_iff, String.toList_ofList] at empty
      rw [empty, scan] at back
      exact nonempty back.symm
    rw [compile_eq_scan filled, String.toList_ofList, back]
  · rw [← scan_source canonical, same, scan_source canonical']

/-- Spellings that overlap with literals, and a character of several bytes: `yyyyy-mMM€ss`. -/
def overlapping : List Segment :=
  [.field .year, .literal ['y', '-', 'm'], .field .month, .literal ['€'], .field .second]

theorem canonical_overlapping : Canonical overlapping := by
  have dash : Unread ['y', '-', 'm'] ['M', 'M', '€', 's', 's'] :=
    unread_cons.mpr ⟨rfl, unread_cons.mpr ⟨rfl, unread_cons.mpr ⟨rfl, nofun⟩⟩⟩
  have euro : Unread ['€'] ['s', 's'] := unread_cons.mpr ⟨rfl, nofun⟩
  have behind : Canonical [.literal ['€'], .field .second] :=
    .literal (List.cons_ne_nil _ _) euro (fun _ => nofun) (.field .second canonical_nil)
  exact .field .year (.literal (List.cons_ne_nil _ _) dash (fun _ => nofun) (.field .month behind))

theorem overlapping_is_compiled :
    "yyyyy-mMM€ss" ≠ "" ∧ overlapping ≠ [] ∧ Canonical overlapping ∧
    Rule.compile .dateTime (String.ofList (overlapping.flatMap Segment.source)) =
      .ok (.date overlapping) ∧
    Rule.compile .dateTime "yyyyy-mMM€ss" = .ok (.date overlapping) := by
  obtain ⟨compiles, canonical, unique⟩ := templates_compile_to_canonical_segments
  obtain ⟨segments, compiled, source, split⟩ := compiles "yyyyy-mMM€ss" (by decide)
  have same := unique segments overlapping split canonical_overlapping (source.trans (by decide))
  refine ⟨by decide, nofun, canonical_overlapping, canonical _ nofun canonical_overlapping, ?_⟩
  rw [compiled, same]

end Template
end Mintmark.Format
