import Mintmark.Proofs.Layout.Verdicts

/-!
# Violations

What a layout can do wrong, said without the check, and the order in which a report lists it. The
check reports every violation once, in this order, and reports nothing else; with nothing to report
the layout is as it should be. The cache that the check compiles through plays no part.

Orders are compared with places only. That this tells whether they are the numbers from zero is due
to the elements being sorted by them.
-/

namespace Mintmark

open Format

theorem Kind.requiresFormat_iff {k : Kind} :
    k.requiresFormat = true ↔ k.isNumeric = true ∨ k = .dateTime := by
  simp [requiresFormat]

theorem Text.allBlank_iff {s : String} :
    allBlank s = true ↔ ∀ c ∈ s.toList, isBlank c = true := List.all_eq_true

namespace Finding

/-- Findings on the whole layout come first, then those on orders, then all others. -/
def stage (f : Finding) : Nat :=
  match f.field with
  | none => 0
  | some .order => 1
  | some _ => 2

/-- The order of a report. Two findings on the whole layout cannot stand in it. -/
inductive Precedes (f g : Finding) : Prop
  | stage (earlier : f.stage < g.stage)
  | place {i j : Nat} (same : f.stage = g.stage) (here : f.index = some i)
      (there : g.index = some j) (earlier : i < j)
  | field {i : Nat} (here : f.index = some i) (there : g.index = some i)
      (value : f.field = some .value) (format : g.field = some .format)

theorem Precedes.ne {f g : Finding} (precedes : f.Precedes g) : f ≠ g := by
  rintro rfl
  cases precedes with
  | stage earlier => exact Nat.lt_irrefl _ earlier
  | place same here there earlier =>
    cases here.symm.trans there
    exact Nat.lt_irrefl _ earlier
  | field here there value format => cases value.symm.trans format

end Finding

namespace Element

/-- What is wrong with an element by itself. A specifier that is missing is not malformed too. -/
inductive Violates (e : Element) (position : Nat) : Finding → Prop
  | blank (text : e.kind = .fixedText) (blank : ∀ c ∈ e.valueText.toList, Text.isBlank c = true) :
      Violates e position (.about position .value (.missing .value))
  | unspecified (reads : e.kind.isNumeric = true ∨ e.kind = .dateTime) (absent : e.formatText = "") :
      Violates e position (.about position .format (.missing .format))
  | malformed {fault : FormatFault} (reads : e.kind.isNumeric = true ∨ e.kind = .dateTime)
      (present : e.formatText ≠ "")
      (fails : Rule.compile e.kind e.formatText = .error (.badFormat e.formatText fault)) :
      Violates e position (.about position .format (.badFormat e.formatText fault))

theorem mem_check_iff_violates (e : Element) (position : Nat) (cache : RuleCache) (f : Finding) :
    f ∈ (e.check position cache).1 ↔ e.Violates position f := by
  rw [mem_check_iff, Kind.requiresFormat_iff, Text.allBlank_iff, Kind.requiresValue, beq_iff_eq]
  constructor
  · rintro (⟨text, blank, rfl⟩ | ⟨reads, absent, rfl⟩ | ⟨specified, problem, fails, rfl⟩)
    · exact .blank text blank
    · exact .unspecified reads absent
    · have reads : e.kind.isNumeric = true ∨ e.kind = .dateTime := by
        rw [← Kind.requiresFormat_iff]
        -- the other kinds compile whatever is written there
        cases kind : e.kind <;> first | rfl | (rw [kind] at fails; cases fails)
      obtain ⟨fault, rfl⟩ := Rule.badFormat_of_compile fails
      exact .malformed reads (fun absent => specified ⟨reads, absent⟩) fails
  · rintro (⟨text, blank⟩ | ⟨reads, absent⟩ | ⟨reads, present, fails⟩)
    · exact .inl ⟨text, blank, rfl⟩
    · exact .inr (.inl ⟨reads, absent, rfl⟩)
    · exact .inr (.inr ⟨fun missing => present missing.2, _, fails, rfl⟩)

theorem Violates.index_eq {e : Element} {position : Nat} {f : Finding}
    (violates : e.Violates position f) : f.index = some position := by
  cases violates <;> rfl

theorem Violates.stage_eq {e : Element} {position : Nat} {f : Finding}
    (violates : e.Violates position f) : f.stage = 2 := by
  cases violates <;> rfl

theorem pairwise_check (e : Element) (position : Nat) (cache : RuleCache) :
    (e.check position cache).1.Pairwise Finding.Precedes := by
  have one (problem : Problem) :
      ((if e.kind.requiresValue && Text.allBlank e.valueText then
        [Finding.about position .value (.missing .value)] else []) ++
          [Finding.about position .format problem]).Pairwise Finding.Precedes := by
    split
    · simpa using Finding.Precedes.field rfl rfl rfl rfl
    · simp
  unfold check
  by_cases bare : (e.kind.requiresFormat && e.formatText.isEmpty) = true
  · rw [if_pos bare]
    exact one (.missing .format)
  · rw [if_neg bare]
    rcases cache.rule e.kind e.formatText with ⟨problem | rule, rest⟩
    · exact one problem
    · -- nothing is said of the format, and of the value at most one thing
      exact (List.pairwise_append.mp (one (.missing .format))).1

end Element

namespace Layout

section Each

variable {α : Type} {check : Nat → α → RuleCache → List Finding × RuleCache}
  {violates : α → Nat → Finding → Prop}

/-- Checking one after another finds what is wrong with each item at its place. -/
theorem mem_checkEach_iff
    (each : ∀ position a cache f, f ∈ (check position a cache).1 ↔ violates a position f)
    {position : Nat} {as : List α} {cache : RuleCache} {f : Finding} :
    f ∈ (checkEach check position as cache).1 ↔
      ∃ i a, as[i]? = some a ∧ violates a (position + i) f := by
  induction as generalizing position cache with
  | nil => simp [checkEach]
  | cons a as ih =>
    simp only [checkEach, List.mem_append, each, ih]
    constructor
    · rintro (first | ⟨i, b, here, later⟩)
      · exact ⟨0, a, rfl, first⟩
      · exact ⟨i + 1, b, here, by rwa [Nat.add_right_comm, Nat.add_assoc] at later⟩
    · rintro ⟨_ | i, b, here, found⟩
      · cases here
        exact .inl found
      · exact .inr ⟨i, b, here, by rwa [Nat.add_right_comm, Nat.add_assoc]⟩

/-- What is found at one item precedes what is found at a later one. -/
theorem pairwise_checkEach {R : Finding → Finding → Prop}
    (found : ∀ position a cache f, f ∈ (check position a cache).1 ↔ violates a position f)
    (each : ∀ position a cache, (check position a cache).1.Pairwise R)
    (across : ∀ {a b i j f g}, i < j → violates a i f → violates b j g → R f g)
    (position : Nat) (as : List α) (cache : RuleCache) :
    (checkEach check position as cache).1.Pairwise R := by
  induction as generalizing position cache with
  | nil => exact .nil
  | cons a as ih =>
    simp only [checkEach]
    refine List.pairwise_append.mpr ⟨each position a cache, ih .., ?_⟩
    intro f first g later
    obtain ⟨i, b, -, later⟩ := (mem_checkEach_iff found).mp later
    exact across (by omega) ((found ..).mp first) later

end Each

/-- What is wrong with a layout, with the finding that reports it. -/
inductive Violates (l : Layout) (mode : Mode) : Finding → Prop
  | tooMany (large : 10 < l.elements.length) :
      Violates l mode (.overall (.tooMany l.elements.length 10))
  | noElements (commit : mode = .commit) (empty : l.elements = []) :
      Violates l mode (.overall .noElements)
  | misplaced {i : Nat} {e : Element} (here : l.elements[i]? = some e) (elsewhere : e.order ≠ i) :
      Violates l mode (.about i .order (.badOrder e.order l.elements.length))
  | element {i : Nat} {e : Element} {f : Finding} (here : l.elements[i]? = some e)
      (violates : e.Violates i f) : Violates l mode f

/-- The layout is as it should be. -/
structure Flawless (l : Layout) (mode : Mode) : Prop where
  bounded : l.elements.length ≤ 10
  filled : mode = .commit → l.elements ≠ []
  numbered : (l.elements.map (·.order)).Perm (List.range l.elements.length)
  texts : ∀ e ∈ l.elements, e.kind = .fixedText →
    ∃ c ∈ e.valueText.toList, Text.isBlank c = false
  formats : ∀ e ∈ l.elements, e.kind.isNumeric = true ∨ e.kind = .dateTime →
    e.formatText ≠ "" ∧ ∃ rule, Rule.compile e.kind e.formatText = .ok rule

variable {l : Layout} {mode : Mode}

/-- Sorted orders are the numbers from zero, in some order, only if each is at its own place. -/
theorem perm_range_iff (l : Layout) :
    (l.elements.map (·.order)).Perm (List.range l.elements.length) ↔
      ∀ (i : Nat) (e : Element), l.elements[i]? = some e → e.order = i := by
  constructor
  · intro perm i e here
    have sorted : (l.elements.map (·.order)).Pairwise (· ≤ ·) := List.pairwise_map.mpr l.sorted
    have eq : l.elements.map (·.order) = List.range l.elements.length :=
      perm.eq_of_pairwise (fun a b _ _ => Nat.le_antisymm) sorted List.pairwise_le_range
    have at_i := congrArg (·[i]?) eq
    simp only [List.getElem?_map, here, Option.map_some] at at_i
    obtain ⟨inside, -⟩ := List.getElem?_eq_some_iff.mp here
    rw [List.getElem?_range inside] at at_i
    exact Option.some.inj at_i
  · intro numbered
    suffices eq : l.elements.map (·.order) = List.range l.elements.length by rw [eq]
    apply List.ext_getElem (by simp)
    intro i inside _
    rw [List.length_map] at inside
    simpa using numbered i _ (List.getElem?_eq_getElem inside)

theorem flawless_iff : l.Flawless mode ↔ ∀ f, ¬ l.Violates mode f := by
  constructor
  · rintro ⟨bounded, filled, numbered, texts, formats⟩ f violates
    cases violates with
    | tooMany large => exact Nat.not_lt.mpr bounded large
    | noElements commit empty => exact filled commit empty
    | misplaced here elsewhere => exact elsewhere (l.perm_range_iff.mp numbered _ _ here)
    | element here violates =>
      have member := List.mem_of_getElem? here
      cases violates with
      | blank text blank =>
        obtain ⟨c, within, visible⟩ := texts _ member text
        exact absurd (blank c within) (by simp [visible])
      | unspecified reads absent => exact (formats _ member reads).1 absent
      | malformed reads present fails =>
        obtain ⟨rule, compiled⟩ := (formats _ member reads).2
        cases fails.symm.trans compiled
  · intro clean
    have complete {e : Element} (member : e ∈ l.elements) {i : Nat} {f : Finding}
        (here : l.elements[i]? = some e) : ¬ e.Violates i f :=
      fun violates => clean f (.element here violates)
    constructor
    · exact Nat.not_lt.mp fun large => clean _ (.tooMany large)
    · exact fun commit empty => clean _ (.noElements commit empty)
    · rw [perm_range_iff]
      intro i e here
      by_contra elsewhere
      exact clean _ (.misplaced here elsewhere)
    · intro e member text
      obtain ⟨i, here⟩ := List.getElem?_of_mem member
      by_contra hidden
      push Not at hidden
      exact complete member here (.blank text fun c within => by simpa using hidden c within)
    · intro e member reads
      obtain ⟨i, here⟩ := List.getElem?_of_mem member
      have present : e.formatText ≠ "" := fun absent =>
        complete member here (.unspecified reads absent)
      refine ⟨present, ?_⟩
      cases compiled : Rule.compile e.kind e.formatText with
      | ok rule => exact ⟨rule, rfl⟩
      | error problem =>
        obtain ⟨fault, rfl⟩ := Rule.badFormat_of_compile compiled
        exact absurd (.malformed reads present compiled) (complete member here)

theorem mem_checkSize_iff {f : Finding} :
    f ∈ checkSize mode l.size ↔
      (10 < l.elements.length ∧ f = .overall (.tooMany l.elements.length 10)) ∨
        mode = .commit ∧ l.elements = [] ∧ f = .overall .noElements := by
  rw [checkSize, checkCount, List.mem_append, List.mem_ite_nil_right, List.mem_ite_nil_right,
    List.mem_singleton, List.mem_singleton, size, List.length_eq_zero_iff, and_comm (a := _ = []),
    and_assoc, maxElements]

theorem mem_checkOrders_iff {elements : List Element} {f : Finding} :
    f ∈ checkOrders elements ↔ ∃ i e, elements[i]? = some e ∧ e.order ≠ i ∧
      f = .about i .order (.badOrder e.order elements.length) := by
  refine ⟨exists_of_mem_checkOrders, ?_⟩
  rintro ⟨i, e, here, elsewhere, rfl⟩
  refine List.mem_filterMap.mpr ⟨(e, i), List.mem_zipIdx_iff_getElem?.mpr here, ?_⟩
  exact if_neg elsewhere

theorem mem_checkElements_iff {elements : List Element} {cache : RuleCache} {f : Finding} :
    f ∈ (checkEach (fun i (e : Element) => e.check i) 0 elements cache).1 ↔
      ∃ (i : Nat) (e : Element), elements[i]? = some e ∧ e.Violates i f := by
  rw [mem_checkEach_iff fun i (e : Element) => e.mem_check_iff_violates i]
  simp only [Nat.zero_add]

theorem mem_check_iff_violates {cache : RuleCache} {f : Finding} :
    f ∈ (l.check mode cache).1 ↔ l.Violates mode f := by
  rw [check, List.mem_append, List.mem_append, mem_checkSize_iff, mem_checkOrders_iff,
    mem_checkElements_iff]
  constructor
  · rintro (((⟨large, rfl⟩ | ⟨commit, empty, rfl⟩) | ⟨i, e, here, elsewhere, rfl⟩) |
      ⟨i, e, here, violates⟩)
    · exact .tooMany large
    · exact .noElements commit empty
    · exact .misplaced here elsewhere
    · exact .element here violates
  · rintro (large | ⟨commit, empty⟩ | ⟨here, elsewhere⟩ | ⟨here, violates⟩)
    · exact .inl (.inl (.inl ⟨large, rfl⟩))
    · exact .inl (.inl (.inr ⟨commit, empty, rfl⟩))
    · exact .inl (.inr ⟨_, _, here, elsewhere, rfl⟩)
    · exact .inr ⟨_, _, here, violates⟩

theorem stage_of_mem_checkSize {f : Finding} (member : f ∈ checkSize mode l.size) :
    f.stage = 0 := by
  rcases mem_checkSize_iff.mp member with ⟨-, rfl⟩ | ⟨-, -, rfl⟩ <;> rfl

theorem stage_of_mem_checkOrders {elements : List Element} {f : Finding}
    (member : f ∈ checkOrders elements) : f.stage = 1 := by
  obtain ⟨i, e, -, -, rfl⟩ := mem_checkOrders_iff.mp member
  rfl

/-- There are not too many elements where there are none. -/
theorem pairwise_checkSize (mode : Mode) (count : Nat) :
    (checkSize mode count).Pairwise Finding.Precedes := by
  unfold checkSize checkCount
  by_cases large : maxElements < count
  · have filled : ¬ (count = 0 ∧ mode = .commit) := fun both => by omega
    rw [if_pos large, if_neg filled]
    simp
  · rw [if_neg large, List.nil_append]
    split <;> simp

theorem pairwise_checkOrders (elements : List Element) :
    (checkOrders elements).Pairwise Finding.Precedes := by
  have indices : (elements.zipIdx.map (·.2)).Pairwise (· < ·) := by
    rw [List.zipIdx_map_snd]
    exact List.pairwise_lt_range'
  refine (List.pairwise_map.mp indices).filterMap _ ?_
  rintro ⟨a, i⟩ ⟨b, j⟩ earlier f reported g later
  simp only [Option.ite_none_left_eq_some, Option.some.injEq] at reported later
  obtain ⟨⟨-, rfl⟩, -, rfl⟩ := And.intro reported later
  exact .place rfl rfl rfl earlier

theorem pairwise_check (mode : Mode) (l : Layout) (cache : RuleCache) :
    (l.check mode cache).1.Pairwise Finding.Precedes := by
  have each : (checkEach (fun i e => e.check i) 0 l.elements cache).1.Pairwise
      Finding.Precedes := by
    apply pairwise_checkEach fun i (e : Element) => e.mem_check_iff_violates i
    · exact fun i e => e.pairwise_check i
    · intro a b i j f g earlier first later
      exact .place (first.stage_eq.trans later.stage_eq.symm) first.index_eq later.index_eq earlier
  rw [check, List.pairwise_append, List.pairwise_append]
  refine ⟨⟨pairwise_checkSize mode l.size, pairwise_checkOrders l.elements, ?_⟩, each, ?_⟩
  · intro f overall g order
    apply Finding.Precedes.stage
    rw [stage_of_mem_checkSize overall, stage_of_mem_checkOrders order]
    exact Nat.zero_lt_one
  · intro f before g element
    obtain ⟨i, e, -, violates⟩ := mem_checkElements_iff.mp element
    apply Finding.Precedes.stage
    rw [violates.stage_eq]
    rcases List.mem_append.mp before with overall | order
    · rw [stage_of_mem_checkSize overall]
      exact Nat.zero_lt_two
    · rw [stage_of_mem_checkOrders order]
      exact Nat.one_lt_two

/-- Of a specifier that is missing nothing else is said. -/
theorem Violates.eq_missing {i : Nat} {problem : Problem}
    (missing : l.Violates mode (.about i .format (.missing .format)))
    (other : l.Violates mode (.about i .format problem)) : problem = .missing .format := by
  cases missing with
  | element here violates =>
    cases violates.index_eq
    cases violates with
    | unspecified reads absent =>
      cases other with
      | element there violates =>
        cases violates.index_eq
        cases here.symm.trans there
        cases violates with
        | unspecified => rfl
        | malformed reads present fails => exact absurd absent present

/-- With any cache and for either mode: the check finds nothing exactly if the layout is as it should
be; otherwise it reports every violation, each once, and nothing else, in the order of a report. Where
a specifier is missing nothing more is said of the format. -/
theorem check_lists_each_violation_once (l : Layout) (mode : Mode) (cache : RuleCache) :
    let findings := (l.check mode cache).1
    (findings = [] ↔ l.Flawless mode) ∧
    (∀ f, findings.count f = 1 ↔ l.Violates mode f) ∧
    (∀ f ∈ findings, l.Violates mode f) ∧
    findings.Pairwise Finding.Precedes ∧
    ∀ i, Finding.about i .format (.missing .format) ∈ findings →
      ∀ problem, Finding.about i .format problem ∈ findings → problem = .missing .format := by
  intro findings
  have member (f : Finding) : f ∈ findings ↔ l.Violates mode f := mem_check_iff_violates
  have ordered : findings.Pairwise Finding.Precedes := pairwise_check mode l cache
  have once : findings.Nodup := ordered.imp Finding.Precedes.ne
  refine ⟨?_, ?_, fun f => (member f).mp, ordered, ?_⟩
  · rw [flawless_iff, List.eq_nil_iff_forall_not_mem]
    simp only [member]
  · intro f
    rw [← member]
    exact ⟨fun counted => List.count_pos_iff.mp (by omega), List.count_eq_one_of_mem once⟩
  · intro i missing problem other
    exact ((member _).mp missing).eq_missing ((member _).mp other)

example :
    (check .commit
      ⟨[{ kind := .sequence, format := some "Q4", order := 0 },
        { kind := .fixedText, value := some " ", order := 0 }, { kind := .dateTime, order := 3 }],
        by decide⟩ .empty).1 =
      [.about 1 .order (.badOrder 0 3), .about 2 .order (.badOrder 3 3),
        .about 0 .format (.badFormat "Q4" (.unknownRadix 'Q')),
        .about 1 .value (.missing .value), .about 2 .format (.missing .format)] := by
  decide

end Layout
end Mintmark
