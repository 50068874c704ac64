import Mintmark.Proofs.Layout.Committable
import Mintmark.Proofs.Layout.Inquiries
import Mintmark.Proofs.Layout.Places

/-!
# Verdicts on drafts

What becomes of drafts that are checked for a commit, whatever the cache: they describe a layout in
order, or one with something to be found in it, or some kind is unknown. In the last case resolving
alone reports the unknown kinds, which are those among all findings that the check reports.
-/

namespace Mintmark

open Format

/-- The finding is about a layout and not about a counter. -/
def Finding.AboutLayout (f : Finding) : Prop := ∀ reason, f.problem ≠ .noAllocation reason

theorem Format.Rule.badFormat_of_compile {kind : Kind} {specifier : String} {problem : Problem}
    (fails : Rule.compile kind specifier = .error problem) :
    ∃ fault, problem = .badFormat specifier fault := by
  unfold Rule.compile at fails
  cases parsed : Rule.parse kind specifier.toList with
  | error fault =>
    rw [parsed] at fails
    cases fails
    exact ⟨fault, rfl⟩
  | ok rule =>
    rw [parsed] at fails
    cases fails

/-- What is wrong with an element by itself is missing or badly written. -/
theorem Element.problem_of_mem_check {e : Element} {position : Nat} {cache : RuleCache} {f : Finding}
    (member : f ∈ (e.check position cache).1) :
    (∃ field, f.problem = .missing field) ∨
      ∃ specifier fault, f.problem = .badFormat specifier fault := by
  rcases Element.mem_check_iff.mp member with ⟨-, -, rfl⟩ | ⟨-, -, rfl⟩ | ⟨-, problem, fails, rfl⟩
  · exact .inl ⟨.value, rfl⟩
  · exact .inl ⟨.format, rfl⟩
  · obtain ⟨fault, rfl⟩ := Rule.badFormat_of_compile fails
    exact .inr ⟨_, fault, rfl⟩

theorem Element.isUnknownKind_of_mem_check {e : Element} {position : Nat} {cache : RuleCache}
    {f : Finding} (member : f ∈ (e.check position cache).1) : f.problem.isUnknownKind = false := by
  rcases e.problem_of_mem_check member with ⟨field, eq⟩ | ⟨specifier, fault, eq⟩
  · rw [eq]
    rfl
  · rw [eq]
    rfl

theorem Element.aboutLayout_of_mem_check {e : Element} {position : Nat} {cache : RuleCache}
    {f : Finding} (member : f ∈ (e.check position cache).1) : f.AboutLayout := by
  intro reason same
  rcases e.problem_of_mem_check member with ⟨field, eq⟩ | ⟨specifier, fault, eq⟩
  · cases eq.symm.trans same
  · cases eq.symm.trans same

theorem Draft.aboutLayout_of_mem_check {d : Draft} {position : Nat} {cache : RuleCache} {f : Finding}
    (member : f ∈ (d.check position cache).1) : f.AboutLayout := by
  unfold Draft.check at member
  cases resolved : d.toElement? position with
  | some e =>
    rw [resolved] at member
    exact e.aboutLayout_of_mem_check member
  | none =>
    rw [resolved] at member
    rw [List.mem_singleton.mp member]
    intro reason same
    cases same

namespace Layout

theorem aboutLayout_of_mem_checkCount {count : Nat} {f : Finding} (member : f ∈ checkCount count) :
    f.AboutLayout := by
  rw [checkCount] at member
  split at member
  · rw [List.mem_singleton.mp member]
    intro reason same
    cases same
  · cases member

theorem aboutLayout_of_mem_check {mode : Mode} {l : Layout} {cache : RuleCache} {f : Finding}
    (member : f ∈ (l.check mode cache).1) : f.AboutLayout := by
  rcases List.mem_append.mp member with overall | each
  · rcases List.mem_append.mp overall with size | orders
    · rw [checkSize] at size
      rcases List.mem_append.mp size with large | small
      · exact aboutLayout_of_mem_checkCount large
      · split at small
        · rw [List.mem_singleton.mp small]
          intro reason same
          cases same
        · cases small
    · obtain ⟨i, e, -, -, rfl⟩ := exists_of_mem_checkOrders orders
      intro reason same
      cases same
  · obtain ⟨i, e, rules, -, found⟩ := exists_of_mem_checkEach each
    exact e.aboutLayout_of_mem_check found

/-- What resolving reports about a draft at its place. -/
def unknownKind? (place : Draft × Nat) : Option Finding :=
  match Kind.ofName? place.1.kind with
  | some _ => none
  | none => some (.about place.2 .kind (.unknownKind place.1.kind))

theorem unknownKinds_eq (drafts : List Draft) :
    unknownKinds drafts = drafts.zipIdx.filterMap unknownKind? :=
  rfl

theorem unknownKinds_eq_nil_iff (drafts : List Draft) :
    unknownKinds drafts = [] ↔ ∀ d ∈ drafts, Kind.ofName? d.kind ≠ none := by
  constructor
  · intro known d member unknown
    obtain ⟨kind, named⟩ := known_of_unknownKinds known member
    rw [unknown] at named
    cases named
  · intro known
    rw [unknownKinds_eq, List.filterMap_eq_nil_iff]
    rintro ⟨d, i⟩ member
    have submitted : d ∈ drafts :=
      List.mem_of_getElem? (List.mem_zipIdx_iff_getElem?.mp member)
    obtain ⟨kind, named⟩ := Option.ne_none_iff_exists'.mp (known d submitted)
    simp only [unknownKind?, named]

theorem known_of_ofDrafts {drafts : List Draft} {l : Layout} (described : ofDrafts drafts = .ok l) :
    ∀ d ∈ drafts, Kind.ofName? d.kind ≠ none := by
  rw [← unknownKinds_eq_nil_iff]
  unfold ofDrafts at described
  split at described
  · assumption
  · cases described

theorem unknownKinds_of_ofDrafts {drafts : List Draft} {findings : List Finding}
    (unknown : ofDrafts drafts = .error findings) :
    unknownKinds drafts = findings ∧ findings ≠ [] := by
  unfold ofDrafts at unknown
  split at unknown
  · cases unknown
  · next nonempty =>
    cases unknown
    exact ⟨rfl, nonempty⟩

theorem exists_unknown_of_ofDrafts {drafts : List Draft} {findings : List Finding}
    (unknown : ofDrafts drafts = .error findings) : ∃ d ∈ drafts, Kind.ofName? d.kind = none := by
  obtain ⟨rfl, nonempty⟩ := unknownKinds_of_ofDrafts unknown
  by_contra known
  rw [ne_eq, unknownKinds_eq_nil_iff] at nonempty
  exact nonempty fun d member unnamed => known ⟨d, member, unnamed⟩

theorem filter_check (d : Draft) (position : Nat) (cache : RuleCache) :
    (d.check position cache).1.filter (·.problem.isUnknownKind) =
      (unknownKind? (d, position)).toList := by
  cases resolved : d.toElement? position with
  | some e =>
    obtain ⟨known, -⟩ := Draft.toElement?_eq_some_iff.mp resolved
    simp only [Draft.check, resolved, unknownKind?, known, Option.toList_none,
      List.filter_eq_nil_iff]
    intro f member
    rw [e.isUnknownKind_of_mem_check member]
    exact Bool.false_ne_true
  | none =>
    have unknown : Kind.ofName? d.kind = none := by simpa [Draft.toElement?] using resolved
    simp only [Draft.check, resolved, unknownKind?, unknown]
    rfl

theorem filter_checkEach (drafts : List Draft) (position : Nat) (cache : RuleCache) :
    (checkEach (fun i d => d.check i) position drafts cache).1.filter (·.problem.isUnknownKind) =
      (drafts.zipIdx position).filterMap unknownKind? := by
  induction drafts generalizing position cache with
  | nil => rfl
  | cons d ds ih =>
    simp only [checkEach, List.filter_append, ih, filter_check, List.zipIdx_cons]
    cases found : unknownKind? (d, position) with
    | none => rw [List.filterMap_cons_none found]; rfl
    | some f => rw [List.filterMap_cons_some found]; rfl

theorem filter_checkCount (count : Nat) :
    (checkCount count).filter (·.problem.isUnknownKind) = [] := by
  unfold checkCount
  split <;> rfl

/-- A layout has as many elements as there were drafts. -/
theorem size_of_ofDrafts {drafts : List Draft} {l : Layout} (described : ofDrafts drafts = .ok l) :
    l.size = drafts.length := by
  unfold ofDrafts at described
  split at described
  · next known =>
    cases described
    have all : (drafts.zipIdx.filterMap fun p => p.1.toElement? p.2).length =
        drafts.zipIdx.length := by
      rw [List.filterMap_length_eq_length]
      intro p member
      obtain ⟨kind, named⟩ :=
        known_of_unknownKinds known (List.mem_of_getElem? (List.mem_zipIdx_iff_getElem?.mp member))
      simp [Draft.toElement?, named]
    rw [List.length_zipIdx] at all
    exact (List.length_mergeSort _).trans all
  · cases described

theorem elements_eq_nil_iff {drafts : List Draft} {l : Layout} (described : ofDrafts drafts = .ok l) :
    l.elements = [] ↔ drafts = [] := by
  rw [← List.length_eq_zero_iff, ← List.length_eq_zero_iff, ← size_of_ofDrafts described, size]

/-- Of a layout with elements a preview finds what a commit does. -/
theorem check_of_nonempty {l : Layout} (nonempty : l.elements ≠ []) (mode : Mode)
    (cache : RuleCache) : l.check mode cache = l.check .commit cache := by
  have filled : l.size ≠ 0 := fun empty => nonempty (List.length_eq_zero_iff.mp empty)
  simp [check, checkSize, filled]

/-- What becomes of drafts that are checked for a commit. -/
inductive Verdict (drafts : List Draft) : Except (List Finding) Layout → Prop
  | accepted {l : Layout} (described : ofDrafts drafts = .ok l) (fit : l.Committable) :
      Verdict drafts (.ok l)
  | unfit {l : Layout} {first : Finding} {rest : List Finding} (described : ofDrafts drafts = .ok l)
      (found : (l.inquiry .commit).value = first :: rest) :
      Verdict drafts (.error (first :: rest))
  | unresolved {findings : List Finding}
      (unknown : ofDrafts drafts = .error (findings.filter (·.problem.isUnknownKind)))
      (nonempty : findings ≠ []) : Verdict drafts (.error findings)

theorem verdict (drafts : List Draft) (cache : RuleCache) :
    Verdict drafts (checkDrafts .commit drafts cache).1 := by
  unfold checkDrafts
  cases described : ofDrafts drafts with
  | ok l =>
    have found := l.check_fst .commit cache
    dsimp only
    rcases checked : l.check .commit cache with ⟨_ | ⟨first, rest⟩, rules⟩
    · exact .accepted described ((l.check_commit_eq_nil_iff cache).mp (by rw [checked]))
    · rw [checked] at found
      exact .unfit described found.symm
  | error unknown =>
    obtain ⟨kinds, nonempty⟩ := unknownKinds_of_ofDrafts described
    have filtered : (checkCount drafts.length ++
        (checkEach (fun i d => d.check i) 0 drafts cache).1).filter (·.problem.isUnknownKind) =
          unknown := by
      rw [List.filter_append, filter_checkCount, filter_checkEach, List.nil_append,
        ← unknownKinds_eq, kinds]
    apply Verdict.unresolved
    · rw [filtered, described]
    · intro empty
      rw [empty] at filtered
      exact nonempty filtered.symm

theorem aboutLayout_of_mem_checkDrafts {mode : Mode} {drafts : List Draft} {cache : RuleCache}
    {findings : List Finding} (refused : (checkDrafts mode drafts cache).1 = .error findings)
    {f : Finding} (member : f ∈ findings) : f.AboutLayout := by
  unfold checkDrafts at refused
  split at refused
  · next l _ =>
    split at refused
    · cases refused
    · next found rules _ checked =>
      cases refused
      have here := congrArg Prod.fst checked
      dsimp only at here
      rw [← here] at member
      exact aboutLayout_of_mem_check member
  · cases refused
    rcases List.mem_append.mp member with count | each
    · exact aboutLayout_of_mem_checkCount count
    · obtain ⟨i, d, rules, -, found⟩ := exists_of_mem_checkEach each
      exact d.aboutLayout_of_mem_check found

end Layout
end Mintmark
