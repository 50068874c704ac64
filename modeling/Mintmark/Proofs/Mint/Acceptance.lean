import Mintmark.Proofs.Layout.Verdicts
import Mintmark.Proofs.Mint.Stock
import Mintmark.Proofs.Mint.Transparency

/-!
# Which drafts are accepted

Drafts reach the check by two ways. Validating and saving check them as drafts; previewing and
generating resolve them first, which only needs their kinds, and leave the rest to the render. Both
come to the same verdict, and a request that is refused for its drafts does nothing to the store.
-/

namespace Mintmark

/-- The request was refused for what it came with, and not for want of anything in the store. -/
def Refusal.ForDrafts : Refusal → Prop
  | .invalid findings => findings ≠ [] ∧ ∀ f ∈ findings, f.AboutLayout
  | .renderFailed finding => finding.AboutLayout
  | .notConfigured _ | .badRequest _ | .notFound _ | .storage _ => False

namespace Layout

/-- A layout in order passes the check of either mode. -/
theorem Committable.value_inquiry {l : Layout} (fit : l.Committable) (mode : Mode) :
    (l.inquiry mode).value = [] := by
  rw [← check_fst mode l .empty, check_of_nonempty fit.nonempty]
  exact (l.check_commit_eq_nil_iff .empty).mpr fit

end Layout

namespace Mint

open Format Store

variable {σ : Type}

theorem value_inquiry (mode : Mode) (l : Layout) :
    (inquiry mode l).value =
      match (l.inquiry mode).value with
      | first :: _ => .error first
      | [] => (compileInquiry 0 l.elements).value := by
  rw [inquiry, Inquiry.value_andThen]
  cases (l.inquiry mode).value <;> rfl

/-- For a layout in order both modes come to the same rules, one for every element. -/
theorem value_of_committable {l : Layout} (fit : l.Committable) :
    ∃ compiled, List.Forall₂ Element.Compiled l.elements compiled ∧
      ∀ mode, (inquiry mode l).value = .ok compiled := by
  obtain ⟨compiled, done, all⟩ := compileAll_ok fit.complete 0 .empty
  refine ⟨compiled, all, fun mode => ?_⟩
  rw [value_inquiry, fit.value_inquiry mode, ← done, ← alone_compileInquiry, Inquiry.alone_fst]

/-- A render stops at what is found first, before it asks the store for anything. -/
theorem render_of_found {mode : Mode} {l : Layout} {first : Finding} {rest : List Finding}
    (found : (l.inquiry mode).value = first :: rest) (m : Mint σ) (moment : Moment)
    (id? : Option InventoryId) (s : State σ) :
    (m.render moment mode id? l s).1 = .error first ∧
      (m.render moment mode id? l s).2.store = s.store := by
  simp only [render, compose_eq, value_inquiry, found, conclude, and_self]

/-- Without an inventory a preview has nothing to ask the store for. -/
theorem store_of_no_inventory (m : Mint σ) (moment : Moment) (l : Layout) (s : State σ) :
    (m.render moment .preview none l s).2.store = s.store := by
  simp only [render, compose_eq]
  cases (inquiry .preview l).value with
  | error finding => rfl
  | ok compiled =>
    simp only [conclude, fill]
    cases l.sequenceIndex? <;> rfl

theorem render_of_no_inventory {l : Layout} (fit : l.Committable) (m : Mint σ) (moment : Moment)
    (s : State σ) : ∃ text, (m.render moment .preview none l s).1 = .ok text := by
  obtain ⟨compiled, all, value⟩ := value_of_committable fit
  simp only [render, compose_eq, value, conclude, fill]
  cases place : l.sequenceIndex? with
  | none =>
    have absent := l.sequenceIndex?_eq_none_iff.mp place
    obtain ⟨pieces, assembled, -⟩ := assemble_ok moment.now none all
      (fun e member kind => absurd kind (absent e member)) 0 moment.words
    exact ⟨_, assembled⟩
  | some index =>
    obtain ⟨pieces, assembled, -⟩ := assemble_ok moment.now (some m.start) all
      (fun _ _ _ => Option.some_ne_none m.start) 0 moment.words
    exact ⟨_, assembled⟩

section

variable {drafts : List Draft} (m : Mint σ) (moment : Moment) (id : InventoryId) (s : State σ)

theorem validate_fst (drafts : List Draft) : (validate drafts s).1 =
    ((Layout.checkDrafts .commit drafts s.rules).1.mapError .invalid).map Layout.size := by
  simp only [validate, andThen, resolveForCommit]
  rcases Layout.checkDrafts .commit drafts s.rules with ⟨_ | l, rules⟩ <;> rfl

theorem save_of_refused {findings : List Finding}
    (refused : (Layout.checkDrafts .commit drafts s.rules).1 = .error findings) :
    (m.save moment id drafts s).1 = .error (.invalid findings) ∧
      (m.save moment id drafts s).2.store = s.store := by
  rcases checked : Layout.checkDrafts .commit drafts s.rules with ⟨answer, rules⟩
  rw [checked] at refused
  cases refused
  simp only [save, andThen, resolveForCommit, checked]
  exact ⟨rfl, rfl⟩

/-- Drafts that pass are saved unless the store fails. -/
theorem save_of_passed {l : Layout}
    (passed : (Layout.checkDrafts .commit drafts s.rules).1 = .ok l) :
    (∃ record, (m.save moment id drafts s).1 = .ok record) ∨
      ∃ error, (m.save moment id drafts s).1 = .error (.storage error) := by
  rcases checked : Layout.checkDrafts .commit drafts s.rules with ⟨answer, rules⟩
  rw [checked] at passed
  cases passed
  simp only [save, andThen, resolveForCommit, checked, Except.mapError, call]
  cases (m.backend.save { inventory := id, layout := l, updatedAt := moment.wall.rfc3339 } s.store).1
  · exact .inr ⟨_, rfl⟩
  · exact .inl ⟨_, rfl⟩

theorem generate_of_described {l : Layout} (described : Layout.ofDrafts drafts = .ok l) :
    (m.generate moment id (some drafts) s).1 =
        (m.render moment .commit (some id) l s).1.mapError .renderFailed ∧
      (m.generate moment id (some drafts) s).2 = (m.render moment .commit (some id) l s).2 := by
  simp only [generate, layoutFor, resolve, described, andThen, Except.mapError, renderCommitted,
    and_self]

theorem preview_of_described {l : Layout} (described : Layout.ofDrafts drafts = .ok l) :
    (m.preview moment drafts s).1 =
        (m.render moment .preview none l s).1.mapError .renderFailed ∧
      (m.preview moment drafts s).2 = (m.render moment .preview none l s).2 := by
  simp only [preview, resolve, described, andThen, Except.mapError, previewLayout, renderPreview,
    and_self]

theorem of_unresolved {findings : List Finding} (unknown : Layout.ofDrafts drafts = .error findings) :
    m.generate moment id (some drafts) s = (.error (.invalid findings), s) ∧
      m.preview moment drafts s = (.error (.invalid findings), s) := by
  simp only [generate, preview, layoutFor, resolve, unknown, andThen, Except.mapError, and_self]

end

/-- Requests with these drafts are carried out unless the counter or the store fails. -/
structure Accepts (m : Mint σ) (moment : Moment) (id : InventoryId) (drafts : List Draft)
    (s : State σ) : Prop where
  shown : ∃ text, (m.preview moment drafts s).1 = .ok text
  made : (∃ text, (m.generate moment id (some drafts) s).1 = .ok text) ∨
    ∃ index error, (m.generate moment id (some drafts) s).1 =
      .error (.renderFailed (noAllocation index error))
  saved : (∃ record, (m.save moment id drafts s).1 = .ok record) ∨
    ∃ error, (m.save moment id drafts s).1 = .error (.storage error)

/-- Requests with these drafts are refused for them and leave the store as it was. What a render
reports is the first of the findings if all kinds are known, and else those about unknown kinds. -/
structure Refuses (m : Mint σ) (moment : Moment) (id : InventoryId) (drafts : List Draft)
    (s : State σ) (findings : List Finding) : Prop where
  saved : (m.save moment id drafts s).1 = .error (.invalid findings)
  made : ∃ refusal, (m.generate moment id (some drafts) s).1 = .error refusal ∧ refusal.ForDrafts
  shown : drafts ≠ [] → ∃ refusal, (m.preview moment drafts s).1 = .error refusal ∧ refusal.ForDrafts
  untouched : (m.save moment id drafts s).2.store = s.store ∧
    (m.generate moment id (some drafts) s).2.store = s.store ∧
    (m.preview moment drafts s).2.store = s.store
  known : (∀ d ∈ drafts, Kind.ofName? d.kind ≠ none) →
    ∃ first rest, findings = first :: rest ∧
      (m.generate moment id (some drafts) s).1 = .error (.renderFailed first) ∧
      (drafts ≠ [] → (m.preview moment drafts s).1 = .error (.renderFailed first))
  unknown : (∃ d ∈ drafts, Kind.ofName? d.kind = none) →
    (m.generate moment id (some drafts) s).1 =
        .error (.invalid (findings.filter (·.problem.isUnknownKind))) ∧
      (m.preview moment drafts s).1 =
        .error (.invalid (findings.filter (·.problem.isUnknownKind)))

section

variable {drafts : List Draft} (m : Mint σ) (moment : Moment) (id : InventoryId) (s : State σ)

theorem accepts_of_fit {l : Layout} (described : Layout.ofDrafts drafts = .ok l)
    (fit : l.Committable) (passed : (Layout.checkDrafts .commit drafts s.rules).1 = .ok l) :
    Accepts m moment id drafts s := by
  refine ⟨?_, ?_, save_of_passed m moment id s passed⟩
  · obtain ⟨text, rendered⟩ := render_of_no_inventory fit m moment s
    exact ⟨text, by rw [(preview_of_described m moment s described).1, rendered]; rfl⟩
  · rw [(generate_of_described m moment id s described).1, ← renderCommitted]
    rcases renderCommitted_of_committable fit m moment id s with
      ⟨text, rendered⟩ | ⟨index, error, rendered⟩
    · exact .inl ⟨text, by rw [rendered]; rfl⟩
    · exact .inr ⟨index, error, by rw [rendered]; rfl⟩

theorem refuses_of_unfit {l : Layout} {first : Finding} {rest : List Finding}
    (described : Layout.ofDrafts drafts = .ok l)
    (found : (l.inquiry .commit).value = first :: rest)
    (about : ∀ f ∈ first :: rest, f.AboutLayout)
    (refused : (Layout.checkDrafts .commit drafts s.rules).1 = .error (first :: rest)) :
    Refuses m moment id drafts s (first :: rest) := by
  have generated := generate_of_described m moment id s described
  have previewed := preview_of_described m moment s described
  have stopped := render_of_found found m moment (some id) s
  have made : (m.generate moment id (some drafts) s).1 = .error (.renderFailed first) := by
    rw [generated.1, stopped.1]
    rfl
  have shown (nonempty : drafts ≠ []) :
      (m.preview moment drafts s).1 = .error (.renderFailed first) := by
    have filled : l.elements ≠ [] := mt (Layout.elements_eq_nil_iff described).mp nonempty
    have same : (l.inquiry .preview).value = first :: rest := by
      rw [← Layout.check_fst .preview l s.rules, Layout.check_of_nonempty filled, Layout.check_fst,
        found]
    rw [previewed.1, (render_of_found same m moment none s).1]
    rfl
  have saved := save_of_refused m moment id s refused
  constructor
  · exact saved.1
  · exact ⟨_, made, about first List.mem_cons_self⟩
  · exact fun nonempty => ⟨_, shown nonempty, about first List.mem_cons_self⟩
  · refine ⟨saved.2, ?_, ?_⟩
    · rw [generated.2, stopped.2]
    · rw [previewed.2, store_of_no_inventory]
  · exact fun _ => ⟨first, rest, rfl, made, shown⟩
  · rintro ⟨d, member, unknown⟩
    exact absurd unknown (Layout.known_of_ofDrafts described d member)

theorem refuses_of_unresolved {findings : List Finding}
    (unknown : Layout.ofDrafts drafts = .error (findings.filter (·.problem.isUnknownKind)))
    (about : ∀ f ∈ findings, f.AboutLayout)
    (refused : (Layout.checkDrafts .commit drafts s.rules).1 = .error findings) :
    Refuses m moment id drafts s findings := by
  obtain ⟨made, shown⟩ := of_unresolved m moment id s unknown
  have saved := save_of_refused m moment id s refused
  obtain ⟨d, member, unnamed⟩ := Layout.exists_unknown_of_ofDrafts unknown
  have forDrafts : (Refusal.invalid (findings.filter (·.problem.isUnknownKind))).ForDrafts := by
    refine ⟨(Layout.unknownKinds_of_ofDrafts unknown).2, ?_⟩
    intro f among
    exact about f (List.mem_of_mem_filter among)
  constructor
  · exact saved.1
  · exact ⟨_, by rw [made], forDrafts⟩
  · exact fun _ => ⟨_, by rw [shown], forDrafts⟩
  · exact ⟨saved.2, by rw [made], by rw [shown]⟩
  · exact fun known => absurd unnamed (known d member)
  · exact fun _ => ⟨by rw [made], by rw [shown]⟩

end

/-- Validating, previewing, saving and generating come to one verdict on drafts, whatever the caches
and the stores are: drafts pass if they are some and can be previewed. -/
theorem entry_points_accept_alike (m : Mint σ) (moment : Moment) (id : InventoryId)
    (drafts : List Draft) (s t : State σ) :
    ((∃ count, (validate drafts s).1 = .ok count) ↔
      drafts ≠ [] ∧ ∃ text, (m.preview moment drafts t).1 = .ok text) ∧
    (∀ count, (validate drafts s).1 = .ok count → Accepts m moment id drafts t) ∧
    (∀ refusal, (validate drafts s).1 = .error refusal →
      ∃ findings, refusal = .invalid findings ∧ refusal.ForDrafts ∧
        Refuses m moment id drafts t findings) := by
  have checked := validate_fst s drafts
  have verdict := Layout.verdict drafts t.rules
  have same : (Layout.checkDrafts .commit drafts s.rules).1 =
      (Layout.checkDrafts .commit drafts t.rules).1 := by
    rw [Layout.checkDrafts_fst, Layout.checkDrafts_fst]
  rw [same] at checked
  cases passed : (Layout.checkDrafts .commit drafts t.rules).1 with
  | ok l =>
    rw [passed] at checked verdict
    cases verdict with
    | accepted described fit =>
      have accepts := accepts_of_fit m moment id t described fit passed
      have nonempty : drafts ≠ [] := mt (Layout.elements_eq_nil_iff described).mpr fit.nonempty
      rw [checked]
      refine ⟨⟨fun _ => ⟨nonempty, accepts.shown⟩, fun _ => ⟨_, rfl⟩⟩, fun _ _ => accepts, ?_⟩
      intro refusal refused
      cases refused
  | error findings =>
    have about : ∀ f ∈ findings, f.AboutLayout := fun f member =>
      Layout.aboutLayout_of_mem_checkDrafts passed member
    have refuses : Refuses m moment id drafts t findings ∧ findings ≠ [] := by
      rw [passed] at verdict
      cases verdict with
      | unfit described found =>
        exact ⟨refuses_of_unfit m moment id t described found about passed, List.cons_ne_nil _ _⟩
      | unresolved unknown nonempty =>
        exact ⟨refuses_of_unresolved m moment id t unknown about passed, nonempty⟩
    rw [passed] at checked
    rw [checked]
    refine ⟨⟨?_, ?_⟩, ?_, ?_⟩
    · rintro ⟨count, accepted⟩
      cases accepted
    · rintro ⟨nonempty, text, shown⟩
      obtain ⟨refusal, refused, -⟩ := refuses.1.shown nonempty
      rw [refused] at shown
      cases shown
    · intro count accepted
      cases accepted
    · intro refusal refused
      cases refused
      exact ⟨findings, rfl, ⟨refuses.2, about⟩, refuses.1⟩

/-- A number that is to stand before a mark, submitted behind it. -/
def numbered : List Draft :=
  [{ kind := "FIXED_TEXT", value := some "#", order := some 1 },
    { kind := "SEQUENCE", format := some "D4", order := some 0 }]

/-- A blank text and a kind that there is not. -/
def unreadable : List Draft := [{ kind := "FIXED_TEXT", value := some " " }, { kind := "BARCODE" }]

theorem numbered_accepted_unreadable_refused (moment : Moment) (t : State Memory) :
    Accepts (inMemory 1) moment pallets numbered t ∧
      Refuses (inMemory 1) moment pallets unreadable t
        [.about 0 .value (.missing .value), .about 1 .kind (.unknownKind "BARCODE")] := by
  constructor
  · have alike := entry_points_accept_alike (inMemory 1) moment pallets numbered
      { store := .empty } t
    exact alike.2.1 2 (by cbv)
  · have alike := entry_points_accept_alike (inMemory 1) moment pallets unreadable
      { store := .empty } t
    obtain ⟨findings, same, -, refuses⟩ := alike.2.2
      (.invalid [.about 0 .value (.missing .value), .about 1 .kind (.unknownKind "BARCODE")])
      (by decide)
    cases same
    exact refuses

end Mint
end Mintmark
