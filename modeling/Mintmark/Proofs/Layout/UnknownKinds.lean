import Mintmark.Element.Catalogue
import Mintmark.Proofs.Layout.Verdicts

/-!
# Drafts of unknown kind

Drafts are checked in one of two ways: as a layout once all their kinds are known, and one by one
before that. Where no draft asks for a position both ways find the same. So the drafts of unknown
kind take nothing from the report and put nothing else into it: with GUIDs in their stead the rest
of the report is the same.
-/

namespace Mintmark

open Format

namespace Draft

/-- The catalogue has no entry for the kind of the draft. -/
def Uncatalogued (d : Draft) : Prop := ∀ entry ∈ catalogue, entry.kind.name ≠ d.kind

instance : DecidablePred Uncatalogued := fun d =>
  inferInstanceAs (Decidable (∀ entry ∈ catalogue, entry.kind.name ≠ d.kind))

theorem uncatalogued_iff {d : Draft} : d.Uncatalogued ↔ Kind.ofName? d.kind = none := by
  simp only [Uncatalogued, catalogue, List.forall_mem_map, Kind.entry_kind, Kind.ofName?,
    List.find?_eq_none, beq_iff_eq]

/-- The second draft stands where the first one stood: a GUID if the kind was unknown. -/
inductive Mended : Draft → Draft → Prop
  | guid {d guid : Draft} (unknown : d.Uncatalogued) (kind : guid.kind = Kind.guid.name)
      (unpositioned : guid.order = none) : Mended d guid
  | known {d : Draft} (known : ¬ d.Uncatalogued) : Mended d d

theorem check_fst (d : Draft) (position : Nat) (cache : RuleCache) :
    (d.check position cache).1 = (d.inquiry position).value := by
  rw [← alone_inquiry, Inquiry.alone_fst]

theorem check_of_uncatalogued {d : Draft} (unknown : d.Uncatalogued) (position : Nat)
    (cache : RuleCache) :
    (d.check position cache).1 = [.about position .kind (.unknownKind d.kind)] := by
  rw [check, toElement?, uncatalogued_iff.mp unknown]
  rfl

/-- Nothing is found in a GUID, whatever else its draft says. -/
theorem check_of_guid {d : Draft} (kind : d.kind = Kind.guid.name) (position : Nat)
    (cache : RuleCache) : (d.check position cache).1 = [] := by
  rw [check, toElement?, kind, Kind.ofName?_name]
  apply (Element.check_eq_nil_iff ..).mpr
  constructor
  · exact fun requires => absurd requires Bool.false_ne_true
  · exact fun requires => absurd requires Bool.false_ne_true
  · exact ⟨.plain, rfl⟩

theorem isUnknownKind_of_mem_check {d : Draft} (known : ¬ d.Uncatalogued) {position : Nat}
    {cache : RuleCache} {f : Finding} (member : f ∈ (d.check position cache).1) :
    f.problem.isUnknownKind = false := by
  obtain ⟨kind, named⟩ := Option.ne_none_iff_exists'.mp (mt uncatalogued_iff.mpr known)
  rw [check, toElement?, named] at member
  exact Element.isUnknownKind_of_mem_check member

/-- What is found in a draft besides its kind is what is found in its stead. -/
theorem Mended.filter_check {d e : Draft} (mended : d.Mended e) (position : Nat)
    (cache cache' : RuleCache) :
    (d.check position cache).1.filter (!·.problem.isUnknownKind) = (e.check position cache').1 := by
  cases mended with
  | guid unknown kind =>
    rw [check_of_uncatalogued unknown, check_of_guid kind]
    rfl
  | known known =>
    rw [check_fst d position cache', ← check_fst d position cache, List.filter_eq_self]
    intro f member
    rw [isUnknownKind_of_mem_check known member, Bool.not_false]

end Draft

namespace Layout

/-- Two ways of checking that agree item by item and place by place agree on the whole. -/
theorem checkEach_eq_of_getElem? {α β : Type} {check : Nat → α → RuleCache → List Finding × RuleCache}
    {check' : Nat → β → RuleCache → List Finding × RuleCache} {position : Nat} {as : List α}
    {bs : List β} (length : as.length = bs.length)
    (same : ∀ i a b, as[i]? = some a → bs[i]? = some b →
      ∀ cache, check (position + i) a cache = check' (position + i) b cache) (cache : RuleCache) :
    checkEach check position as cache = checkEach check' position bs cache := by
  induction as generalizing position bs cache with
  | nil => rw [List.length_eq_zero_iff.mp length.symm]; rfl
  | cons a as ih =>
    obtain ⟨b, bs, rfl⟩ := List.exists_cons_of_length_eq_add_one length.symm
    have first := same 0 a b rfl rfl
    have rest : ∀ cache,
        checkEach check (position + 1) as cache = checkEach check' (position + 1) bs cache :=
      ih (Nat.succ.inj length) fun i a b here there => by
        have later := same (i + 1) a b here there
        rwa [← Nat.add_assoc, Nat.add_right_comm] at later
    rw [Nat.add_zero] at first
    simp only [checkEach, first, rest]

theorem inOrder_of_unpositioned {drafts : List Draft} (unpositioned : ∀ d ∈ drafts, d.order = none) :
    InOrder drafts := by
  rw [InOrder, List.pairwise_iff_getElem]
  intro i j within within' before
  rw [List.length_zipIdx] at within within'
  have first := unpositioned drafts[i] (List.getElem_mem _)
  have second := unpositioned drafts[j] (List.getElem_mem _)
  simp only [List.getElem_zipIdx, first, second, Option.getD_none]
  omega

section Unpositioned

variable {drafts : List Draft} (unpositioned : ∀ d ∈ drafts, d.order = none)
include unpositioned

/-- Drafts that ask for no position keep their places. -/
theorem exists_of_unpositioned {l : Layout} (described : ofDrafts drafts = .ok l) {i : Nat}
    {e : Element} (here : l.elements[i]? = some e) :
    ∃ d, drafts[i]? = some d ∧ d.toElement? i = some e ∧ e.order = i := by
  unfold ofDrafts at described
  split at described
  · next known =>
    cases described
    obtain ⟨d, place, there, resolved⟩ := exists_arranged known here
    rw [arranged_of_inOrder (inOrder_of_unpositioned unpositioned), List.getElem?_zipIdx,
      Option.map_eq_some_iff] at there
    obtain ⟨d, there, same⟩ := there
    rw [Nat.zero_add] at same
    cases same
    refine ⟨d, there, resolved, ?_⟩
    rw [(Draft.toElement?_eq_some_iff.mp resolved).2.2.2,
      unpositioned d (List.mem_of_getElem? there), Option.getD_none]
  · cases described

theorem checkEach_of_unpositioned {l : Layout} (described : ofDrafts drafts = .ok l)
    (cache : RuleCache) :
    checkEach (fun i e => e.check i) 0 l.elements cache =
      checkEach (fun i d => d.check i) 0 drafts cache := by
  apply checkEach_eq_of_getElem? (size_of_ofDrafts described)
  intro i e d here there cache
  obtain ⟨d', same, resolved, -⟩ := exists_of_unpositioned unpositioned described here
  cases same.symm.trans there
  rw [Nat.zero_add, Draft.check, resolved]

end Unpositioned

/-- What is reported of drafts; nothing of those that are accepted. -/
def reported (mode : Mode) (drafts : List Draft) (cache : RuleCache) : List Finding :=
  match (checkDrafts mode drafts cache).1 with
  | .ok _ => []
  | .error findings => findings

theorem reported_of_ofDrafts {drafts : List Draft} {l : Layout}
    (described : ofDrafts drafts = .ok l) (mode : Mode) (cache : RuleCache) :
    reported mode drafts cache = (l.check mode cache).1 := by
  unfold reported checkDrafts
  rw [described]
  dsimp only
  rcases l.check mode cache with ⟨_ | ⟨finding, findings⟩, rest⟩ <;> rfl

/-- Without positions both ways of checking find the same: the size, then draft by draft. -/
theorem reported_of_unpositioned {drafts : List Draft}
    (unpositioned : ∀ d ∈ drafts, d.order = none) (mode : Mode) (cache : RuleCache) :
    reported mode drafts cache =
      checkSize mode drafts.length ++ (checkEach (fun i d => d.check i) 0 drafts cache).1 := by
  cases described : ofDrafts drafts with
  | ok l =>
    have orders : checkOrders l.elements = [] := by
      rw [checkOrders_eq_nil_iff]
      intro i e here
      obtain ⟨-, -, -, order⟩ := exists_of_unpositioned unpositioned described here
      exact order
    rw [reported_of_ofDrafts described, check, checkEach_of_unpositioned unpositioned described,
      orders, List.append_nil, size_of_ofDrafts described]
  | error unknown =>
    -- the second way has no finding on empty lists, but a draft of unknown kind is a draft
    obtain ⟨d, member, -⟩ := exists_unknown_of_ofDrafts described
    have some : drafts.length ≠ 0 := (List.length_pos_of_mem member).ne'
    simp only [reported, checkDrafts, described, checkSize, some, false_and, if_false,
      List.append_nil]

theorem isUnknownKind_of_mem_checkSize {mode : Mode} {count : Nat} {f : Finding}
    (member : f ∈ checkSize mode count) : f.problem.isUnknownKind = false := by
  rw [checkSize, checkCount, List.mem_append, List.mem_ite_nil_right, List.mem_ite_nil_right,
    List.mem_singleton, List.mem_singleton] at member
  rcases member with ⟨-, rfl⟩ | ⟨-, rfl⟩ <;> rfl

theorem filter_checkEach_of_mended {drafts mended : List Draft}
    (each : List.Forall₂ Draft.Mended drafts mended) (position : Nat) (cache cache' : RuleCache) :
    (checkEach (fun i d => d.check i) position drafts cache).1.filter (!·.problem.isUnknownKind) =
      (checkEach (fun i d => d.check i) position mended cache').1 := by
  induction each generalizing position cache cache' with
  | nil => rfl
  | cons first rest ih =>
    simp only [checkEach, List.filter_append, first.filter_check position cache cache']
    exact congrArg _ (ih ..)

theorem filterMap_unknownKind? (places : List (Draft × Nat)) :
    places.filterMap unknownKind? = (places.filter (·.1.Uncatalogued)).map fun (d, i) =>
      .about i .kind (.unknownKind d.kind) := by
  rw [← List.filterMap_eq_map', List.filterMap_filter]
  congr 1
  funext ⟨d, i⟩
  simp only [unknownKind?, Draft.uncatalogued_iff]
  cases Kind.ofName? d.kind <;> rfl

theorem unpositioned_of_mended {drafts mended : List Draft}
    (each : List.Forall₂ Draft.Mended drafts mended) (unpositioned : ∀ d ∈ drafts, d.order = none) :
    ∀ d ∈ mended, d.order = none := by
  induction each with
  | nil => exact unpositioned
  | cons first rest ih =>
    obtain ⟨here, later⟩ := List.forall_mem_cons.mp unpositioned
    refine List.forall_mem_cons.mpr ⟨?_, ih later⟩
    cases first with
    | guid unknown kind unpositioned => exact unpositioned
    | known known => exact here

/-- Where no draft asks for a position, unknown kinds are reported once each and at their places, and
all else that is reported is what is reported with GUIDs in their stead. -/
theorem unknown_kinds_hide_nothing (mode : Mode) {drafts mended : List Draft}
    (unpositioned : ∀ d ∈ drafts, d.order = none)
    (each : List.Forall₂ Draft.Mended drafts mended) (cache cache' : RuleCache) :
    (reported mode drafts cache).filter (!·.problem.isUnknownKind) = reported mode mended cache' ∧
    (reported mode drafts cache).filter (·.problem.isUnknownKind) =
      (drafts.zipIdx.filter (·.1.Uncatalogued)).map fun (d, i) =>
        .about i .kind (.unknownKind d.kind) := by
  rw [reported_of_unpositioned unpositioned,
    reported_of_unpositioned (unpositioned_of_mended each unpositioned),
    List.filter_append, List.filter_append]
  have kept : (checkSize mode drafts.length).filter (!·.problem.isUnknownKind) =
      checkSize mode mended.length := by
    rw [← each.length_eq, List.filter_eq_self]
    intro f member
    rw [isUnknownKind_of_mem_checkSize member, Bool.not_false]
  have dropped : (checkSize mode drafts.length).filter (·.problem.isUnknownKind) = [] := by
    rw [List.filter_eq_nil_iff]
    intro f member
    rw [isUnknownKind_of_mem_checkSize member]
    exact Bool.false_ne_true
  constructor
  · rw [kept, filter_checkEach_of_mended each]
  · rw [dropped, List.nil_append, filter_checkEach, filterMap_unknownKind?]

/-- Two kinds that nobody knows, around a blank text and a bad specifier. -/
def garbled : List Draft :=
  [{ kind := "UUID" }, { kind := "FIXED_TEXT", value := some " " },
    { kind := "SEQUENCE", format := some "Q4" }, { kind := "guid", format := some "D6" }]

def garbledMended : List Draft :=
  [{ kind := "GUID" }, { kind := "FIXED_TEXT", value := some " " },
    { kind := "SEQUENCE", format := some "Q4" }, { kind := "GUID", format := some "D6" }]

theorem garbled_hides_nothing :
    (∀ d ∈ garbled, d.order = none) ∧ List.Forall₂ Draft.Mended garbled garbledMended ∧
    (reported .commit garbled .empty).filter (!·.problem.isUnknownKind) =
      [.about 1 .value (.missing .value), .about 2 .format (.badFormat "Q4" (.unknownRadix 'Q'))] ∧
    (reported .commit garbled .empty).filter (·.problem.isUnknownKind) =
      [.about 0 .kind (.unknownKind "UUID"), .about 3 .kind (.unknownKind "guid")] := by
  have unpositioned : ∀ d ∈ garbled, d.order = none := by decide
  have each : List.Forall₂ Draft.Mended garbled garbledMended :=
    .cons (.guid (by decide) rfl rfl) (.cons (.known (by decide))
      (.cons (.known (by decide)) (.cons (.guid (by decide) rfl rfl) .nil)))
  obtain ⟨others, unknown⟩ := unknown_kinds_hide_nothing .commit unpositioned each .empty .empty
  refine ⟨unpositioned, each, others.trans ?_, unknown.trans (by decide)⟩
  rw [reported_of_unpositioned (by decide)]
  decide

end Layout
end Mintmark
