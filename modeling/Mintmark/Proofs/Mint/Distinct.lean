import Mintmark.Proofs.Memory.Interleaving
import Mintmark.Proofs.Memory.Sequential
import Mintmark.Proofs.Mint.Allocation
import Mintmark.Proofs.Mint.Lengths
import Mintmark.Proofs.Mint.Runs

/-!
# Identifiers that do not collide

Two identifiers of one layout are told apart by their numbers, if nothing but the sequence can
change its length. The pieces made with the greater number are no shorter one by one, so equal
identifiers are cut into pieces at the same places, and equal pieces of a sequence element show
equal numbers.
-/

namespace Mintmark

open Format Store

theorem length_join_le {ps qs : List String}
    (grow : List.Forall₂ (fun p q => p.length ≤ q.length) ps qs) :
    (String.join ps).length ≤ (String.join qs).length := by
  induction grow with
  | nil => exact Nat.le_refl _
  | cons le _ ih =>
    rw [String.join_cons, String.join_cons, String.length_append, String.length_append]
    exact Nat.add_le_add le ih

/-- Texts joined from pieces that only grow from one list to the other are equal only if all pieces
are. -/
theorem eq_of_join_eq {ps qs : List String}
    (grow : List.Forall₂ (fun p q => p.length ≤ q.length) ps qs)
    (eq : String.join ps = String.join qs) : ps = qs := by
  induction grow with
  | nil => rfl
  | @cons p q ps qs le grow ih =>
    rw [String.join_cons, String.join_cons] at eq
    have rest := length_join_le grow
    have total := congrArg String.length eq
    rw [String.length_append, String.length_append] at total
    have same : p.toList.length = q.toList.length := by
      rw [String.length_toList, String.length_toList]
      omega
    have cut := congrArg String.toList eq
    rw [String.toList_append, String.toList_append] at cut
    obtain ⟨first, rest⟩ := List.append_inj cut same
    rw [String.toList_inj.mp first, ih (String.toList_inj.mp rest)]

namespace Layout

/-- The identifiers of the layout tell the numbers that they were made with. -/
structure Telling (l : Layout) : Prop where
  fit : l.Committable
  counted : ∃ e ∈ l.elements, e.kind = .sequence
  roomy : ∀ e ∈ l.elements, e.Roomy

/-- The instant can be shown by all elements of the layout in the usual number of places. -/
def Dated (now : Instant) (l : Layout) : Prop := ∀ e ∈ l.elements, e.Dated now

end Layout

section

variable {now now' : Instant} {n m : UInt64}

theorem pieces_grow {elements : List Element} (le : n ≤ m) (roomy : ∀ e ∈ elements, e.Roomy)
    (dated : ∀ e ∈ elements, e.Dated now) (dated' : ∀ e ∈ elements, e.Dated now')
    {ps qs : List String} (shown : List.Forall₂ (Element.Shows now (some n)) elements ps)
    (shown' : List.Forall₂ (Element.Shows now' (some m)) elements qs) :
    List.Forall₂ (fun p q => p.length ≤ q.length) ps qs := by
  induction shown generalizing qs with
  | nil =>
    cases shown'
    exact .nil
  | @cons e p elements ps shows _ ih =>
    cases shown' with
    | cons shows' shown' =>
      simp only [List.forall_mem_cons] at roomy dated dated'
      refine .cons ?_ (ih roomy.2 dated.2 dated'.2 shown')
      by_cases kind : e.kind = .sequence
      · exact Element.length_le_of_sequence kind le shows shows'
      · exact Nat.le_of_eq
          (Element.length_eq_of_shows kind roomy.1 dated.1 dated'.1 shows shows')

theorem eq_of_same_pieces {elements : List Element}
    (counted : ∃ e ∈ elements, e.kind = .sequence) {ps : List String}
    (shown : List.Forall₂ (Element.Shows now (some n)) elements ps)
    (shown' : List.Forall₂ (Element.Shows now' (some m)) elements ps) : n = m := by
  obtain ⟨e, member, kind⟩ := counted
  obtain ⟨i, bound, rfl⟩ := List.getElem_of_mem member
  have inside : i < ps.length := shown.length_eq ▸ bound
  exact Element.eq_of_sequence kind (shown.get bound inside) (shown'.get bound inside)

/-- An identifier tells the number it was made with. -/
theorem Layout.Telling.number_unique {l : Layout} (telling : l.Telling) (dated : l.Dated now)
    (dated' : l.Dated now') {text : String} {ps qs : List String}
    (spells : l.Spells now (some n) text ps) (spells' : l.Spells now' (some m) text qs) : n = m := by
  have joined : String.join ps = String.join qs := spells.joined.symm.trans spells'.joined
  rcases UInt64.le_total n m with le | le
  · have same := eq_of_join_eq
      (pieces_grow le telling.roomy dated dated' spells.shown spells'.shown) joined
    rw [same] at spells
    exact eq_of_same_pieces telling.counted spells.shown spells'.shown
  · have same := eq_of_join_eq
      (pieces_grow le telling.roomy dated' dated spells'.shown spells.shown) joined.symm
    rw [← same] at spells
    exact eq_of_same_pieces telling.counted spells.shown spells'.shown

end

namespace Mint

variable {σ : Type}

theorem renderCommitted_of_allocate {l : Layout} (fit : l.Committable)
    (counted : ∃ e ∈ l.elements, e.kind = .sequence) {m : Mint σ} {moment : Moment}
    {id : InventoryId} {s : State σ} {value : UInt64} {store : σ}
    (answer : m.backend.allocate id m.start moment.wall.millis s.store = (.ok value, store)) :
    ∃ text pieces, (m.renderCommitted moment id l s).1 = .ok text ∧
      (m.renderCommitted moment id l s).2.store = store ∧
      l.Spells moment.now (some value) text pieces := by
  obtain ⟨index, place⟩ := Layout.exists_sequenceIndex? counted
  obtain ⟨compiled, rules, all, composed⟩ := compose_of_committable fit m moment (some id) s
  obtain ⟨pieces, shown, filled⟩ := fill_of_allocate (s := { s with rules }) all place answer
  refine ⟨String.join pieces, pieces, ?_, ?_, Layout.spells_join shown⟩ <;>
    simp only [renderCommitted, render, composed, filled]

theorem renderCommitted_of_error {l : Layout} (fit : l.Committable) {index : Nat}
    (place : l.sequenceIndex? = some index) {m : Mint σ} {moment : Moment} {id : InventoryId}
    {s : State σ} {error : StoreError} {store : σ}
    (answer : m.backend.allocate id m.start moment.wall.millis s.store = (.error error, store)) :
    (m.renderCommitted moment id l s).1 = .error (noAllocation index error) := by
  obtain ⟨compiled, rules, -, composed⟩ := compose_of_committable fit m moment (some id) s
  have filled := fill_of_error (s := { s with rules }) compiled place answer
  simp only [renderCommitted, render, composed, filled]

def inMemory (start : UInt64) : Mint Memory := { backend := Memory.backend, start }

theorem inMemory_respects (start : UInt64) (id : InventoryId) :
    (inMemory start).Respects fun m n => (m.peek id start).toNat ≤ (n.peek id start).toNat where
  refl _ := Nat.le_refl _
  trans _ _ _ := Nat.le_trans
  allocate other now m := m.peek_le_allocate other id start now
  peek _ _ := Nat.le_refl _
  counter _ _ := Nat.le_refl _
  save _ _ := Nat.le_refl _
  load _ _ := Nat.le_refl _
  remove _ _ := Nat.le_refl _

/-- The text shows a number of the counter from one value up to below another. -/
def Issue.Between (first last : Nat) (issue : Issue) : Prop :=
  ∃ value pieces, issue.layout.Spells issue.moment.now (some value) issue.text pieces ∧
    first ≤ value.toNat ∧ value.toNat < last

variable {start : UInt64} {l : Layout}

/-- What a request gives out shows the value that its counter is moved past. -/
theorem between_of_issue? {s : State Memory} {r : Request} {issue : Issue}
    (telling : issue.layout.Telling) (given : (inMemory start).issue? s r = some issue) :
    issue.Between (s.store.peek issue.id start).toNat
      (((inMemory start).after s r).store.peek issue.id start).toNat := by
  obtain ⟨drafts, t, found, rendered⟩ := render_of_issue? given
  have before : (s.store.peek issue.id start).toNat ≤ (t.store.peek issue.id start).toNat := by
    have respects := inMemory_respects start issue.id
    have step := along_layoutFor respects.toObserves issue.id drafts s
    rwa [found] at step
  rcases t.store.allocate_cases issue.id start issue.moment.wall.millis with
    ⟨store, answer, next, -⟩ | ⟨store, answer, -⟩
  · obtain ⟨text, pieces, shown, left, spells⟩ :=
      renderCommitted_of_allocate (m := inMemory start) telling.fit telling.counted answer
    rw [rendered] at shown left
    cases shown
    refine ⟨_, pieces, spells, before, ?_⟩
    dsimp only at left
    rw [left, next]
    apply Nat.lt_succ_self
  · obtain ⟨index, place⟩ := Layout.exists_sequenceIndex? telling.counted
    have failed := renderCommitted_of_error (m := inMemory start) telling.fit place answer
    rw [rendered] at failed
    cases failed

theorem Issue.Between.widen {first last first' last' : Nat} {issue : Issue}
    (between : issue.Between first last) (le : first' ≤ first) (le' : last ≤ last') :
    issue.Between first' last' := by
  obtain ⟨value, pieces, spells, least, most⟩ := between
  exact ⟨value, pieces, spells, Nat.le_trans le least, Nat.lt_of_lt_of_le most le'⟩

/-- All that a run gives out shows values that the counters are moved past in this run. -/
theorem between_of_issues (requests : List Request) (s : State Memory) (issue : Issue)
    (member : issue ∈ (inMemory start).issues requests s) (telling : issue.layout.Telling) :
    issue.Between (s.store.peek issue.id start).toNat
      (((inMemory start).run requests s).store.peek issue.id start).toNat := by
  induction requests generalizing s with
  | nil => cases member
  | cons r rs ih =>
    have respects := inMemory_respects start issue.id
    rcases List.mem_append.mp member with here | later
    · have given := Option.mem_toList.mp here
      exact (between_of_issue? telling given).widen (Nat.le_refl _) (store_run respects rs _)
    · exact (ih _ later).widen (store_after respects r s) (Nat.le_refl _)

theorem text_ne_of_between {a b : Issue} {first middle last : Nat} (telling : l.Telling)
    (layout : a.layout = l) (layout' : b.layout = l) (dated : l.Dated a.moment.now)
    (dated' : l.Dated b.moment.now) (low : a.Between first middle) (high : b.Between middle last) :
    a.text ≠ b.text := by
  obtain ⟨n, ps, spells, -, below⟩ := low
  obtain ⟨m, qs, spells', above, -⟩ := high
  intro same
  rw [layout] at spells
  rw [layout', ← same] at spells'
  have eq := telling.number_unique dated dated' spells spells'
  rw [eq] at below
  exact absurd below (Nat.not_lt_of_le above)

/-- A run on the store in memory never gives the same identifier out twice. -/
theorem issues_pairwise_ne (telling : l.Telling) (requests : List Request) (s : State Memory) :
    ((inMemory start).issues requests s).Pairwise fun a b =>
      a.id = b.id → a.layout = l → b.layout = l → l.Dated a.moment.now → l.Dated b.moment.now →
        a.text ≠ b.text := by
  induction requests generalizing s with
  | nil => exact .nil
  | cons r rs ih =>
    refine List.pairwise_append.mpr ⟨?_, ih _, ?_⟩
    · cases (inMemory start).issue? s r with
      | none => exact .nil
      | some issue => exact List.pairwise_singleton ..
    · intro a here b later same layout layout' dated dated'
      have low := between_of_issue? (layout.symm ▸ telling) (Option.mem_toList.mp here)
      have high := between_of_issues rs _ b later (layout'.symm ▸ telling)
      rw [← same] at high
      exact text_ne_of_between telling layout layout' dated dated' low high

end Mint

/-- Committed renders that are given these two values answer with different identifiers, whatever
the stores, the words and the clocks. -/
def Layout.Apart (l : Layout) (n n' : UInt64) : Prop :=
  ∀ (σ τ : Type) (m : Mint σ) (m' : Mint τ) (moment moment' : Mint.Moment) (id id' : InventoryId)
    (s : Mint.State σ) (s' : Mint.State τ),
    (m.backend.allocate id m.start moment.wall.millis s.store).1 = .ok n →
    (m'.backend.allocate id' m'.start moment'.wall.millis s'.store).1 = .ok n' →
    l.Dated moment.now → l.Dated moment'.now →
    ∃ text text', (m.renderCommitted moment id l s).1 = .ok text ∧
      (m'.renderCommitted moment' id' l s').1 = .ok text' ∧ text ≠ text'

theorem Layout.Telling.apart {l : Layout} (telling : l.Telling) {n n' : UInt64} (ne : n ≠ n') :
    l.Apart n n' := by
  intro σ τ m m' moment moment' id id' s s' answer answer' dated dated'
  obtain ⟨text, pieces, shown, -, spells⟩ :=
    Mint.renderCommitted_of_allocate telling.fit telling.counted (Prod.ext answer rfl)
  obtain ⟨text', pieces', shown', -, spells'⟩ :=
    Mint.renderCommitted_of_allocate telling.fit telling.counted (Prod.ext answer' rfl)
  refine ⟨text, text', shown, shown', ?_⟩
  rintro rfl
  exact ne (telling.number_unique dated dated' spells spells')

/-- Identifiers made with different numbers differ. So no run on the store in memory gives the same
identifier of an inventory out twice, and neither do renders that take their numbers from it in any
interleaving. -/
theorem committed_identifiers_differ {l : Layout} (telling : l.Telling) :
    (∀ n n', n ≠ n' → l.Apart n n') ∧
    (∀ start requests s, ((Mint.inMemory start).issues requests s).Pairwise fun a b =>
      a.id = b.id → a.layout = l → b.layout = l → l.Dated a.moment.now → l.Dated b.moment.now →
        a.text ≠ b.text) ∧
    (∀ (c : Cells) start moves,
      (∀ request, .arrive request ∈ moves → request.start = start) →
        ∀ id, ((Shared.State.run { cells := c } moves).given id).Pairwise l.Apart) := by
  refine ⟨fun n n' => telling.apart, fun start requests s => ?_, ?_⟩
  · exact Mint.issues_pairwise_ne telling requests s
  · intro c start moves agreed id
    have kept := Shared.kept_run moves agreed (Shared.kept_start c id start)
    exact (Shared.nodup_given kept).imp telling.apart

/-- Two sequence elements that outgrow their widths one after the other, with a random number
between them. -/
def ticket : Layout :=
  .ofList
    [{ kind := .fixedText, value := some "A-" }, { kind := .sequence, format := some "D2" },
      { kind := .random6Digit, format := some "D6" }, { kind := .sequence, format := some "X1" }]

theorem ticket_telling : ticket.Telling where
  fit := (ticket.check_commit_eq_nil_iff .empty).mp (by decide)
  counted := ⟨_, List.mem_cons_of_mem _ List.mem_cons_self, rfl⟩
  roomy := by
    intro e member limit rule drawn parsed
    have kinds : ∀ e ∈ ticket.elements, e.kind.drawLimit? = none ∨
        e.kind.drawLimit? = some 999999 ∧
          NumericRule.parse e.formatText.toList = .ok ⟨.decimal, 6, true⟩ := by
      decide
    rcases kinds e member with fixed | ⟨six, places⟩
    · rw [fixed] at drawn
      cases drawn
    · rw [six] at drawn
      rw [places] at parsed
      cases drawn
      cases parsed
      exact Text.length_digits_le (by decide) (by decide) (by decide)

theorem ticket_99_ne_100 : ticket.Telling ∧ ticket.Apart 99 100 :=
  ⟨ticket_telling, (committed_identifiers_differ ticket_telling).1 99 100 (by decide)⟩

end Mintmark
