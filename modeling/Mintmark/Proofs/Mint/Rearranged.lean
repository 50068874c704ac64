import Mintmark.Mint.Service
import Mintmark.Proofs.Layout.Readback
import Mintmark.Proofs.Layout.UnknownKinds
import Mintmark.Proofs.Mint.Transparency

/-!
# Drafts in another order

Drafts that all ask for a position describe the layout sorted by these positions. Distinct positions
can be sorted in one way only, so it makes no difference in which order the drafts are listed, and
what is answered to a request depends on its drafts through their layout alone. Drafts that ask for no
position take their places in the list.
-/

namespace Mintmark

open Format

/-- The draft with the position that it asks for, or else with its place. -/
def Draft.placed (d : Draft) (place : Nat) : Draft := { d with order := some (d.order.getD place) }

theorem Draft.toDraft_of_toElement? {d : Draft} {place : Nat} {e : Element}
    (resolved : d.toElement? place = some e) : e.toDraft = d.placed place := by
  obtain ⟨named, value, format, order⟩ := toElement?_eq_some_iff.mp resolved
  simp only [Element.toDraft, placed, Kind.name_of_ofName? named, value, format, order]

namespace Layout

/-- Drafts of known kinds resolve one by one, each with its position or else with its place. -/
theorem map_toDraft_filterMap {drafts : List Draft}
    (known : ∀ d ∈ drafts, Kind.ofName? d.kind ≠ none) (first : Nat) :
    ((drafts.zipIdx first).filterMap fun (d, i) => d.toElement? i).map Element.toDraft =
      (drafts.zipIdx first).map fun (d, i) => d.placed i := by
  induction drafts generalizing first with
  | nil => rfl
  | cons d ds ih =>
    obtain ⟨kind, named⟩ := Option.ne_none_iff_exists'.mp (known d List.mem_cons_self)
    have resolved : ∃ e, d.toElement? first = some e := by
      rw [Draft.toElement?, named]
      exact ⟨_, rfl⟩
    obtain ⟨e, resolved⟩ := resolved
    have rest := ih (fun d member => known d (List.mem_cons_of_mem _ member)) (first + 1)
    simp only [List.zipIdx_cons, List.filterMap_cons, resolved, List.map_cons, rest,
      Draft.toDraft_of_toElement? resolved]

theorem exists_elements {drafts : List Draft} (known : ∀ d ∈ drafts, Kind.ofName? d.kind ≠ none) :
    ∃ elements : List Element,
      elements.map Element.toDraft = drafts.zipIdx.map (fun (d, i) => d.placed i) ∧
      ofDrafts drafts = .ok (ofElements elements) := by
  refine ⟨_, map_toDraft_filterMap known 0, ?_⟩
  rw [ofDrafts, (unknownKinds_eq_nil_iff drafts).mpr known]

/-- All drafts are of known kinds and ask for a position, each for another one. -/
structure Positioned (drafts : List Draft) : Prop where
  known : ∀ d ∈ drafts, Kind.ofName? d.kind ≠ none
  given : ∀ d ∈ drafts, d.order ≠ none
  distinct : (drafts.map (·.order)).Nodup

namespace Positioned

variable {drafts drafts' : List Draft}

theorem perm (positioned : Positioned drafts) (perm : drafts.Perm drafts') :
    Positioned drafts' where
  known d member := positioned.known d (perm.mem_iff.mpr member)
  given d member := positioned.given d (perm.mem_iff.mpr member)
  distinct := (perm.map _).nodup_iff.mp positioned.distinct

theorem map_placed (positioned : Positioned drafts) :
    drafts.zipIdx.map (fun (d, i) => d.placed i) = drafts := by
  have same : ∀ p ∈ drafts.zipIdx, p.1.placed p.2 = p.1 := by
    rintro ⟨d, i⟩ member
    have submitted : d ∈ drafts := List.mem_of_getElem? (List.mem_zipIdx_iff_getElem?.mp member)
    obtain ⟨order, own⟩ := Option.ne_none_iff_exists'.mp (positioned.given d submitted)
    rw [Draft.placed, own, Option.getD_some, ← own]
  calc drafts.zipIdx.map (fun (d, i) => d.placed i)
      = drafts.zipIdx.map Prod.fst := List.map_congr_left same
    _ = drafts := List.zipIdx_map_fst 0 drafts

/-- Such drafts are those of elements with distinct positions. -/
theorem exists_elements (positioned : Positioned drafts) :
    ∃ elements : List Element, elements.map Element.toDraft = drafts ∧
      (elements.map (·.order)).Nodup ∧ ofDrafts drafts = .ok (ofElements elements) := by
  obtain ⟨elements, origin, described⟩ := Layout.exists_elements positioned.known
  rw [positioned.map_placed] at origin
  have distinct := positioned.distinct
  rw [← origin, List.map_map] at distinct
  refine ⟨elements, origin, ?_, described⟩
  apply List.Nodup.of_map some
  rwa [List.map_map]

end Positioned

/-- The elements of a draft list do not depend on where the drafts stand once they ask for
positions, so those of a rearranged list are rearranged. -/
theorem perm_of_map_toDraft {elements elements' : List Element}
    (perm : (elements.map Element.toDraft).Perm (elements'.map Element.toDraft)) :
    elements.Perm elements' := by
  have back (es : List Element) :
      (es.map Element.toDraft).filterMap (fun d => d.toElement? 0) = es := by
    simp only [List.filterMap_map, Function.comp_def, Draft.toElement?_toDraft, List.filterMap_some]
  have picked := perm.filterMap fun d => d.toElement? 0
  rwa [back, back] at picked

/-- Elements with distinct positions are sorted in one way only. -/
theorem ofElements_perm {elements elements' : List Element} (perm : elements.Perm elements')
    (distinct : (elements.map (·.order)).Nodup) : ofElements elements = ofElements elements' := by
  have sorted : (ofElements elements).elements.Perm (ofElements elements').elements :=
    (List.mergeSort_perm ..).trans (perm.trans (List.mergeSort_perm ..).symm)
  have same : (ofElements elements).elements = (ofElements elements').elements := by
    refine sorted.eq_of_pairwise ?_ (ofElements elements).sorted (ofElements elements').sorted
    intro a b here there le ge
    have first : a ∈ elements := List.mem_mergeSort.mp here
    have second : b ∈ elements := perm.mem_iff.mpr (List.mem_mergeSort.mp there)
    exact List.inj_on_of_nodup_map distinct first second (Nat.le_antisymm le ge)
  cases l : ofElements elements
  cases l' : ofElements elements'
  simpa only [l, l', mk.injEq] using same

/-- The layout shows all drafts and nothing else, each at the position that it asks for. -/
structure Sorts (l : Layout) (drafts : List Draft) : Prop where
  shows : l.toDrafts.Perm drafts
  ascending : l.elements.Pairwise fun a b => a.order < b.order

theorem sorts_ofElements {elements : List Element} (distinct : (elements.map (·.order)).Nodup) :
    (ofElements elements).Sorts (elements.map Element.toDraft) where
  shows := (List.mergeSort_perm ..).map _
  ascending := by
    have apart : ((ofElements elements).elements.map (·.order)).Nodup :=
      ((List.mergeSort_perm ..).map _).nodup_iff.mpr distinct
    have differ : (ofElements elements).elements.Pairwise fun a b => a.order ≠ b.order :=
      List.pairwise_map.mp apart
    exact (ofElements elements).sorted.and differ |>.imp fun both => Nat.lt_of_le_of_ne both.1 both.2

theorem ofDrafts_perm {drafts drafts' : List Draft} (positioned : Positioned drafts)
    (perm : drafts.Perm drafts') :
    ∃ l, ofDrafts drafts = .ok l ∧ ofDrafts drafts' = .ok l ∧ l.Sorts drafts := by
  obtain ⟨elements, origin, distinct, described⟩ := positioned.exists_elements
  obtain ⟨elements', origin', -, described'⟩ := (positioned.perm perm).exists_elements
  have rearranged : elements.Perm elements' := perm_of_map_toDraft (by rwa [origin, origin'])
  refine ⟨ofElements elements, described, ?_, origin ▸ sorts_ofElements distinct⟩
  rw [described', ofElements_perm rearranged distinct]

/-- Without positions the list decides: every draft gets its place. -/
theorem toDrafts_of_unpositioned {drafts : List Draft}
    (known : ∀ d ∈ drafts, Kind.ofName? d.kind ≠ none)
    (unpositioned : ∀ d ∈ drafts, d.order = none) :
    ∃ l, ofDrafts drafts = .ok l ∧
      l.toDrafts = drafts.mapIdx fun i d => { d with order := some i } := by
  cases described : ofDrafts drafts with
  | error unknown =>
    obtain ⟨d, member, unnamed⟩ := exists_unknown_of_ofDrafts described
    exact absurd unnamed (known d member)
  | ok l =>
    have length : l.elements.length = drafts.length := size_of_ofDrafts described
    refine ⟨l, rfl, List.ext_getElem (by simp [toDrafts, length]) fun i within _ => ?_⟩
    rw [toDrafts, List.length_map] at within
    obtain ⟨d, here, resolved, -⟩ :=
      exists_of_unpositioned unpositioned described (List.getElem?_eq_getElem within)
    obtain ⟨submitted, rfl⟩ := List.getElem?_eq_some_iff.mp here
    have own := unpositioned _ (List.getElem_mem submitted)
    simp only [toDrafts, List.getElem_map, List.getElem_mapIdx, Draft.toDraft_of_toElement? resolved,
      Draft.placed, own, Option.getD_none]

end Layout

namespace Mint

variable {σ : Type}

/-- The counter of an inventory gives one value in both states, or fails alike. -/
structure SameCounter (m : Mint σ) (moment : Moment) (id : InventoryId) (s t : State σ) :
    Prop where
  peek : (m.backend.peek id m.start s.store).1 = (m.backend.peek id m.start t.store).1
  allocate : (m.backend.allocate id m.start moment.wall.millis s.store).1 =
    (m.backend.allocate id m.start moment.wall.millis t.store).1

section Counter

variable {m : Mint σ} {moment : Moment} {id? : Option InventoryId} {s t : State σ}
  (same : ∀ id, id? = some id → m.SameCounter moment id s t)
include same

theorem sequenceValue_fst_of_sameCounter (mode : Mode) (index : Nat) :
    (m.sequenceValue moment mode id? index s).1 = (m.sequenceValue moment mode id? index t).1 := by
  cases id? with
  | none => rfl
  | some id =>
    obtain ⟨peek, allocate⟩ := same id rfl
    cases mode with
    | preview => exact congrArg (Except.mapError (noAllocation index)) peek
    | commit =>
      unfold sequenceValue
      dsimp only
      rcases first : m.backend.allocate id m.start moment.wall.millis s.store with ⟨answer, store⟩
      rcases second : m.backend.allocate id m.start moment.wall.millis t.store with ⟨answer', store'⟩
      rw [first, second] at allocate
      cases allocate
      cases answer <;> rfl

theorem fill_fst_of_sameCounter (mode : Mode) (l : Layout) (compiled : List Rule) :
    (m.fill moment mode id? l compiled s).1 = (m.fill moment mode id? l compiled t).1 := by
  unfold fill
  cases l.sequenceIndex? with
  | none => rfl
  | some index =>
    have value := sequenceValue_fst_of_sameCounter same mode index
    dsimp only
    rcases first : m.sequenceValue moment mode id? index s with ⟨answer, after⟩
    rcases second : m.sequenceValue moment mode id? index t with ⟨answer', after'⟩
    rw [first, second] at value
    cases value
    cases answer <;> rfl

/-- What a render shows depends on the counter, and on nothing else that earlier requests have left
behind. -/
theorem render_fst_of_sameCounter (mode : Mode) (l : Layout) :
    (m.render moment mode id? l s).1 = (m.render moment mode id? l t).1 := by
  simp only [render, compose_eq]
  cases (inquiry mode l).value with
  | error finding => rfl
  | ok compiled =>
    apply fill_fst_of_sameCounter _ mode l compiled
    intro id given
    exact ⟨(same id given).peek, (same id given).allocate⟩

end Counter

/-- Whoever sends these drafts and not those learns nothing of it and changes nothing by it. -/
structure Interchangeable (drafts drafts' : List Draft) : Prop where
  layout : ∃ l, Layout.ofDrafts drafts = .ok l ∧ Layout.ofDrafts drafts' = .ok l ∧ l.Sorts drafts
  check : ∀ mode, Layout.checkDrafts mode drafts = Layout.checkDrafts mode drafts'
  validate : ∀ σ : Type, (validate drafts : Action σ Nat) = validate drafts'
  save : ∀ (σ : Type) (m : Mint σ) moment id, m.save moment id drafts = m.save moment id drafts'
  preview : ∀ (σ : Type) (m : Mint σ) moment, m.preview moment drafts = m.preview moment drafts'
  previewFor : ∀ (σ : Type) (m : Mint σ) moment id,
    m.previewFor moment id (some drafts) = m.previewFor moment id (some drafts')
  generate : ∀ (σ : Type) (m : Mint σ) moment id,
    m.generate moment id (some drafts) = m.generate moment id (some drafts')
  /-- The texts are the same too where the requests come at different times, whatever happened in
  between, as long as the counter stands where it stood. -/
  exampleText : ∀ (σ : Type) (m : Mint σ) moment (s t : State σ),
    (m.preview moment drafts s).1 = (m.preview moment drafts' t).1
  texts : ∀ (σ : Type) (m : Mint σ) moment id (s t : State σ), m.SameCounter moment id s t →
    (m.previewFor moment id (some drafts) s).1 = (m.previewFor moment id (some drafts') t).1 ∧
      (m.generate moment id (some drafts) s).1 = (m.generate moment id (some drafts') t).1

/-- Requests look at drafts through the layout that they describe. -/
theorem interchangeable_of_ofDrafts {drafts drafts' : List Draft} {l : Layout}
    (described : Layout.ofDrafts drafts = .ok l) (described' : Layout.ofDrafts drafts' = .ok l)
    (sorts : l.Sorts drafts) : Interchangeable drafts drafts' := by
  have check (mode : Mode) : Layout.checkDrafts mode drafts = Layout.checkDrafts mode drafts' := by
    funext cache
    simp only [Layout.checkDrafts, described, described']
  have resolveForCommit (σ : Type) :
      (resolveForCommit drafts : Action σ Layout) = resolveForCommit drafts' := by
    funext s
    simp only [Mint.resolveForCommit, check]
  have resolve (σ : Type) : (resolve drafts : Action σ Layout) = resolve drafts' := by
    funext s
    simp only [Mint.resolve, described, described']
  constructor
  · exact ⟨l, described, described', sorts⟩
  · exact check
  · intro σ
    simp only [Mint.validate, resolveForCommit]
  · intro σ m moment id
    simp only [Mint.save, resolveForCommit]
  · intro σ m moment
    simp only [Mint.preview, resolve]
  · intro σ m moment id
    simp only [Mint.previewFor, layoutFor, resolve]
  · intro σ m moment id
    simp only [Mint.generate, layoutFor, resolve]
  · intro σ m moment s t
    have counter : ∀ id, none = some id → m.SameCounter moment id s t := by
      intro id given
      cases given
    have shown : (m.renderPreview moment none l s).1 = (m.renderPreview moment none l t).1 :=
      render_fst_of_sameCounter counter .preview l
    simp only [Mint.preview, Mint.resolve, andThen, described, described', Except.mapError,
      previewLayout, shown]
  · intro σ m moment id s t same
    have counter : ∀ other, some id = some other → m.SameCounter moment other s t := by
      intro other given
      cases given
      exact same
    have shown : (m.renderPreview moment (some id) l s).1 = (m.renderPreview moment (some id) l t).1 :=
      render_fst_of_sameCounter counter .preview l
    have shown' : (m.renderCommitted moment id l s).1 = (m.renderCommitted moment id l t).1 :=
      render_fst_of_sameCounter counter .commit l
    simp only [Mint.previewFor, Mint.generate, layoutFor, Mint.resolve, andThen, described,
      described', Except.mapError, previewLayout, shown, shown', and_self]

/-- With distinct positions of their own drafts may be listed in any order: the layout is the same,
and so is every answer and all that it leaves behind. Without any positions the order of the list is
that of the layout. -/
theorem positions_decide_before_places {drafts : List Draft}
    (known : ∀ d ∈ drafts, Kind.ofName? d.kind ≠ none) :
    ((∀ d ∈ drafts, d.order ≠ none) → (drafts.map (·.order)).Nodup →
      ∀ drafts', drafts.Perm drafts' → Interchangeable drafts drafts') ∧
    ((∀ d ∈ drafts, d.order = none) →
      ∃ l, Layout.ofDrafts drafts = .ok l ∧
        l.toDrafts = drafts.mapIdx fun i d => { d with order := some i }) := by
  refine ⟨fun given distinct drafts' perm => ?_, fun unpositioned => ?_⟩
  · obtain ⟨l, described, described', sorts⟩ := Layout.ofDrafts_perm ⟨known, given, distinct⟩ perm
    exact interchangeable_of_ofDrafts described described' sorts
  · exact Layout.toDrafts_of_unpositioned known unpositioned

/-- Three drafts, listed with the last one first. -/
def hamper : List Draft :=
  [{ kind := "SEQUENCE", format := some "D4", order := some 2 },
    { kind := "FIXED_TEXT", value := some "HAM-", order := some 0 },
    { kind := "DATE_TIME", format := some "yyyy", order := some 1 }]

theorem hamper_listed_backwards :
    (∀ d ∈ hamper, Kind.ofName? d.kind ≠ none) ∧ (∀ d ∈ hamper, d.order ≠ none) ∧
    (hamper.map (·.order)).Nodup ∧ hamper.Perm hamper.reverse ∧
    Interchangeable hamper hamper.reverse ∧
    ∃ l, Layout.ofDrafts (hamper.map fun d => { d with order := none }) = .ok l ∧
      l.toDrafts.map (fun d => (d.kind, d.order)) =
        [("SEQUENCE", some 0), ("FIXED_TEXT", some 1), ("DATE_TIME", some 2)] := by
  have known : ∀ d ∈ hamper, Kind.ofName? d.kind ≠ none := by decide
  have given : ∀ d ∈ hamper, d.order ≠ none := by decide
  have distinct : (hamper.map (·.order)).Nodup := by decide
  have perm : hamper.Perm hamper.reverse := hamper.reverse_perm.symm
  refine ⟨known, given, distinct, perm, ?_, ?_⟩
  · exact (positions_decide_before_places known).1 given distinct hamper.reverse perm
  · have known' : ∀ d ∈ hamper.map fun d => { d with order := none }, Kind.ofName? d.kind ≠ none := by
      decide
    obtain ⟨l, described, shown⟩ := (positions_decide_before_places known').2 (by decide)
    refine ⟨l, described, ?_⟩
    rw [shown]
    rfl

end Mint
end Mintmark
