import Mintmark.Proofs.Mint.Allocation
import Mintmark.Proofs.Mint.Distinct
import Mintmark.Proofs.Store.Filing

/-!
# What is in stock

The layouts that a mint has stored have all passed the check for a commit, whatever was asked of it:
only saving puts a layout on the shelf, and it checks first. So an identifier can be rendered from
what is stored unless the counter has no value to give.
-/

namespace Mintmark

namespace Layout

theorem Committable.fits {l : Layout} (fit : l.Committable) : l.Fits := by
  intro e member
  obtain ⟨i, inside, here⟩ := List.getElem_of_mem member
  have order := fit.numbered i e (by rw [List.getElem?_eq_getElem inside, here])
  have bounded : l.elements.length ≤ maxElements := fit.bounded
  rw [maxElements] at bounded
  rw [order]
  exact Nat.lt_trans (Nat.lt_of_lt_of_le inside bounded) (by decide)

theorem Committable.orders {l : Layout} (fit : l.Committable) :
    l.elements.map (·.order) = List.range l.size := by
  apply List.ext_getElem?
  intro i
  rw [List.getElem?_map]
  by_cases inside : i < l.elements.length
  · rw [size, List.getElem?_range inside, List.getElem?_eq_getElem inside, Option.map_some,
      fit.numbered i _ (List.getElem?_eq_getElem inside)]
  · rw [List.getElem?_eq_none (Nat.le_of_not_lt inside), List.getElem?_eq_none]
    · rfl
    · rw [List.length_range]
      exact Nat.le_of_not_lt inside

/-- What the check for a commit lets pass is what the drafts describe. -/
theorem committable_of_checkDrafts {drafts : List Draft} {cache : Format.RuleCache} {l : Layout}
    (passed : (checkDrafts .commit drafts cache).1 = .ok l) :
    ofDrafts drafts = .ok l ∧ l.Committable := by
  unfold checkDrafts at passed
  cases described : ofDrafts drafts with
  | error findings =>
    rw [described] at passed
    cases passed
  | ok layout =>
    rw [described] at passed
    rcases checked : layout.check .commit cache with ⟨_ | ⟨finding, findings⟩, rest⟩
    · simp only [checked] at passed
      cases passed
      exact ⟨rfl, (l.check_commit_eq_nil_iff cache).mp (by rw [checked])⟩
    · simp only [checked] at passed
      cases passed

end Layout

namespace Mint

open Store

variable {σ : Type}

/-- The record of a layout that is saved at this moment. -/
def Moment.record (moment : Moment) (id : InventoryId) (layout : Layout) : StoredLayout :=
  { inventory := id, layout, updatedAt := moment.wall.rfc3339 }

/-- What a request leaves stored for an inventory, judged by its answer. -/
def kept (m : Mint σ) (id : InventoryId) (s : State σ) (before : Option StoredLayout) :
    Request → Option StoredLayout
  | .save moment other drafts =>
    match (m.save moment other drafts s).1, Layout.ofDrafts drafts with
    | .ok _, .ok layout => if id = other then some (moment.record id layout) else before
    | _, _ => before
  | .delete other =>
    match (m.delete other s).1 with
    | .ok _ => if id = other then none else before
    | .error _ => before
  | _ => before

/-- What a run leaves stored for an inventory for which nothing was stored: the layout of the last
drafts that were saved, unless it was deleted after that. -/
def lastKept (m : Mint σ) (id : InventoryId) : List Request → State σ → Option StoredLayout →
    Option StoredLayout
  | [], _, before => before
  | r :: rs, s, before => lastKept m id rs (m.after s r) (m.kept id s before r)

/-- The inventory that a request is about. -/
def Request.id? : Request → Option InventoryId
  | .validate _ | .preview .. => none
  | .previewFor _ id _ | .generate _ id _ | .save _ id _ | .stored id | .delete id | .sequence id =>
    some id

/-- A record as a successful save leaves it. -/
structure Proper (id : InventoryId) (stored : StoredLayout) : Prop where
  own : stored.inventory = id
  fit : stored.layout.Committable

section

variable {m : Mint σ} {Used : InventoryId → Prop} {Shows : σ → Shelf → Prop} {shelf : Shelf}
  {s : State σ}

theorem observes_shelf (keeps : KeepsShelf m.backend Used Shows) (shelf : Shelf) :
    m.Observes fun s t => Shows s shelf → Shows t shelf where
  refl _ shows := shows
  trans _ _ _ first second shows := second (first shows)
  allocate id now _ := keeps.allocate id m.start now
  peek id _ := keeps.peek id m.start
  counter id _ := keeps.counter id
  load id _ shows := (keeps.load id shows).2

/-- A save is refused before the store is called, or the drafts describe a layout in order. -/
theorem save_cases (m : Mint σ) (moment : Moment) (id : InventoryId) (drafts : List Draft)
    (s : State σ) :
    (∃ refusal rules, m.save moment id drafts s = (.error refusal, { s with rules })) ∨
      ∃ layout, Layout.ofDrafts drafts = .ok layout ∧ layout.Committable := by
  rcases checked : Layout.checkDrafts .commit drafts s.rules with ⟨findings | layout, rules⟩
  · left
    refine ⟨.invalid findings, rules, ?_⟩
    simp only [save, andThen, resolveForCommit, checked]
    rfl
  · exact .inr ⟨layout, Layout.committable_of_checkDrafts (congrArg Prod.fst checked)⟩

/-- Drafts that describe a layout in order are saved, and then they are on the shelf. -/
theorem save_of_committable (keeps : KeepsShelf m.backend Used Shows) {id : InventoryId}
    (used : Used id) (shows : Shows s.store shelf) (moment : Moment) {drafts : List Draft}
    {layout : Layout} (described : Layout.ofDrafts drafts = .ok layout) (fit : layout.Committable) :
    ∃ rules store,
      m.save moment id drafts s = (.ok (moment.record id layout), { s with rules, store }) ∧
        Shows store (Function.update shelf id (some (moment.record id layout))) := by
  have clean := (layout.check_commit_eq_nil_iff s.rules).mpr fit
  rcases checked : layout.check .commit s.rules with ⟨findings, rules⟩
  rw [checked] at clean
  cases clean
  have saving : (m.backend.save (moment.record id layout) s.store).1 = .ok () ∧
      Shows (m.backend.save (moment.record id layout) s.store).2
        (Function.update shelf id (some (moment.record id layout))) :=
    keeps.save used fit.fits shows
  rcases made : m.backend.save (moment.record id layout) s.store with ⟨answer, store⟩
  rw [made] at saving
  obtain ⟨rfl, shows⟩ := saving
  refine ⟨rules, store, ?_, shows⟩
  rw [Moment.record] at made
  simp only [save, andThen, resolveForCommit, Layout.checkDrafts, described, checked,
    Except.mapError, call, made]
  rfl

/-- What is on the shelf after a request that changes the shelf. -/
structure Keeps (m : Mint σ) (Shows : σ → Shelf → Prop) (s : State σ) (shelf : Shelf) (r : Request) :
    Prop where
  shows : Shows (m.after s r).store fun id => m.kept id s (shelf id) r
  proper : ∀ id, ∀ stored ∈ m.kept id s (shelf id) r, stored ∈ shelf id ∨ Proper id stored

theorem keeps_save (keeps : KeepsShelf m.backend Used Shows) {other : InventoryId}
    (used : Used other) (shows : Shows s.store shelf) (moment : Moment) (drafts : List Draft) :
    Keeps m Shows s shelf (.save moment other drafts) := by
  rcases save_cases m moment other drafts s with ⟨refusal, rules, refused⟩ | ⟨layout, described, fit⟩
  · have unchanged (id : InventoryId) :
        m.kept id s (shelf id) (.save moment other drafts) = shelf id := by
      simp only [kept, refused]
    constructor
    · simp only [unchanged, after, refused]
      exact shows
    · intro id stored member
      rw [unchanged] at member
      exact .inl member
  · obtain ⟨rules, store, done, shows⟩ :=
      save_of_committable keeps used shows moment described fit
    have replaced (id : InventoryId) : m.kept id s (shelf id) (.save moment other drafts) =
        if id = other then some (moment.record id layout) else shelf id := by
      simp only [kept, done, described]
    constructor
    · simp only [replaced, after, done]
      convert shows using 1
      funext id
      rw [Function.update_apply]
      split
      · next same => rw [same]
      · rfl
    · intro id stored member
      rw [replaced] at member
      split at member
      · cases member
        exact .inr ⟨rfl, fit⟩
      · exact .inl member

theorem keeps_delete (keeps : KeepsShelf m.backend Used Shows) {other : InventoryId}
    (used : Used other) (shows : Shows s.store shelf) : Keeps m Shows s shelf (.delete other) := by
  obtain ⟨answer, shows⟩ := keeps.remove used shows
  rcases made : m.backend.remove other s.store with ⟨result, store⟩
  rw [made] at answer shows
  cases answer
  have done : m.delete other s =
      (if (shelf other).isSome then .ok () else .error (.notConfigured other.text),
        { s with store }) := by
    simp only [delete, andThen, call, made, Except.mapError]
    cases (shelf other).isSome <;> rfl
  have removed (id : InventoryId) :
      m.kept id s (shelf id) (.delete other) = Function.update shelf other none id := by
    rw [Function.update_apply, kept, done]
    cases here : shelf other with
    | some stored => rfl
    | none =>
      change shelf id = _
      split
      · next same => rw [same, here]
      · rfl
  constructor
  · simp only [removed, after, done]
    exact shows
  · intro id stored member
    rw [removed, Function.update_apply] at member
    split at member
    · cases member
    · exact .inl member

theorem keeps_request (keeps : KeepsShelf m.backend Used Shows) (shows : Shows s.store shelf)
    (r : Request) (used : ∀ id ∈ r.id?, Used id) : Keeps m Shows s shelf r := by
  cases r with
  | save moment id drafts => exact keeps_save keeps (used id rfl) shows moment drafts
  | delete id => exact keeps_delete keeps (used id rfl) shows
  | validate | preview | previewFor | generate | stored | sequence =>
    exact ⟨store_after_observing (observes_shelf keeps shelf) rfl s shows,
      fun _ _ member => .inl member⟩

/-- After a run there is on the shelf what was kept last, and every record is proper. -/
theorem keeps_run (keeps : KeepsShelf m.backend Used Shows) (requests : List Request)
    (used : ∀ r ∈ requests, ∀ id ∈ r.id?, Used id) (shows : Shows s.store shelf)
    (proper : ∀ id, ∀ stored ∈ shelf id, Proper id stored) :
    Shows (m.run requests s).store (fun id => m.lastKept id requests s (shelf id)) ∧
      ∀ id, ∀ stored ∈ m.lastKept id requests s (shelf id), Proper id stored := by
  induction requests generalizing s shelf with
  | nil => exact ⟨shows, proper⟩
  | cons r rs ih =>
    rw [List.forall_mem_cons] at used
    have step := keeps_request keeps shows r used.1
    refine ih used.2 step.shows fun id stored member => ?_
    rcases step.proper id stored member with old | new
    · exact proper id stored old
    · exact new

theorem renderCommitted_of_committable {l : Layout} (fit : l.Committable) (m : Mint σ)
    (moment : Moment) (id : InventoryId) (s : State σ) :
    (∃ text, (m.renderCommitted moment id l s).1 = .ok text) ∨
      ∃ index error, (m.renderCommitted moment id l s).1 = .error (noAllocation index error) := by
  obtain ⟨compiled, rules, all, composed⟩ := compose_of_committable fit m moment (some id) s
  simp only [renderCommitted, render, composed]
  cases place : l.sequenceIndex? with
  | none =>
    have absent := l.sequenceIndex?_eq_none_iff.mp place
    obtain ⟨pieces, assembled, -⟩ := assemble_ok moment.now none all
      (fun e member kind => absurd kind (absent e member)) 0 moment.words
    left
    refine ⟨String.join pieces, ?_⟩
    simp only [fill, place, assembled]
  | some index =>
    rcases answer : m.backend.allocate id m.start moment.wall.millis s.store with
      ⟨error | value, store⟩
    · right
      refine ⟨index, error, ?_⟩
      rw [fill_of_error (s := { s with rules }) compiled place answer]
    · left
      obtain ⟨pieces, -, filled⟩ := fill_of_allocate (s := { s with rules }) all place answer
      exact ⟨_, by rw [filled]⟩

/-- What can be said of an inventory when this record, or none, is stored for it. -/
structure Stocked (m : Mint σ) (s : State σ) (id : InventoryId) (record? : Option StoredLayout) :
    Prop where
  loads : (m.backend.load id s.store).1 = .ok record?
  answers : (m.stored id s).1 = record?.elim (.error (.notConfigured id.text)) .ok
  own : ∀ stored ∈ record?, stored.inventory = id
  filled : ∀ stored ∈ record?, 1 ≤ stored.layout.size ∧ stored.layout.size ≤ Layout.maxElements
  orders : ∀ stored ∈ record?,
    stored.layout.elements.map (·.order) = List.range stored.layout.size
  passes : ∀ stored ∈ record?, ∀ rules, (stored.layout.check .commit rules).1 = []
  missing : ∀ moment, (m.generate moment id none s).1 = .error (.notConfigured id.text) ↔
    record? = none
  renders : ∀ stored ∈ record?, ∀ moment,
    (∃ text, (m.generate moment id none s).1 = .ok text) ∨
      ∃ index error, (m.generate moment id none s).1 =
        .error (.renderFailed (noAllocation index error))

/-- Asking for a record gives what is on the shelf and leaves it there. -/
theorem stored_of_shows (keeps : KeepsShelf m.backend Used Shows) {id : InventoryId}
    (used : Used id) (shows : Shows s.store shelf) :
    ∃ store, m.backend.load id s.store = (.ok (shelf id), store) ∧ Shows store shelf ∧
      m.stored id s = ((shelf id).elim (.error (.notConfigured id.text)) .ok, { s with store }) := by
  obtain ⟨loads, still⟩ := keeps.load id shows
  rcases made : m.backend.load id s.store with ⟨answer, store⟩
  rw [made] at loads still
  cases loads used
  refine ⟨store, rfl, still, ?_⟩
  rw [Mint.stored, andThen, call, made]
  cases shelf id <;> rfl

theorem stocked_of_shows (keeps : KeepsShelf m.backend Used Shows) {id : InventoryId}
    (used : Used id) (shows : Shows s.store shelf) (proper : ∀ stored ∈ shelf id, Proper id stored) :
    Stocked m s id (shelf id) := by
  obtain ⟨store, made, -, stored⟩ := stored_of_shows keeps used shows
  constructor
  · rw [made]
  · rw [stored]
  · exact fun stored member => (proper stored member).own
  · intro stored member
    have fit := (proper stored member).fit
    exact ⟨List.length_pos_iff.mpr fit.nonempty, fit.bounded⟩
  · exact fun stored member => (proper stored member).fit.orders
  · intro stored member rules
    exact (stored.layout.check_commit_eq_nil_iff rules).mpr (proper stored member).fit
  · intro moment
    simp only [generate, layoutFor, andThen, stored]
    cases here : shelf id with
    | none => simp
    | some record =>
      rcases renderCommitted_of_committable (proper record here).fit m moment id
        { s with store } with ⟨text, rendered⟩ | ⟨index, error, rendered⟩
      · simp [rendered, Except.mapError]
      · simp [rendered, Except.mapError]
  · intro record here moment
    simp only [generate, layoutFor, andThen, stored, Option.mem_def.mp here, Option.elim_some]
    rcases renderCommitted_of_committable (proper record here).fit m moment id
      { s with store } with ⟨text, rendered⟩ | ⟨index, error, rendered⟩
    · exact .inl ⟨text, by rw [rendered]; rfl⟩
    · exact .inr ⟨index, error, by rw [rendered]; rfl⟩

theorem stocked_of_run (keeps : KeepsShelf m.backend Used Shows) (requests : List Request)
    (used : ∀ r ∈ requests, ∀ id ∈ r.id?, Used id) (shows : Shows s.store fun _ => none)
    {id : InventoryId} (here : Used id) :
    Stocked m (m.run requests s) id (m.lastKept id requests s none) := by
  obtain ⟨shows, proper⟩ := keeps_run keeps requests used shows (by simp)
  exact stocked_of_shows keeps here shows (proper id)

end

def inFolder (f : Folder) (start : UInt64) : Mint Disk := { backend := f.backend, start }

/-- Whatever a mint has been asked for since its store was empty, what it has stored for an inventory
is the layout that was saved last and not deleted since, a layout in order: only the lack of a value
keeps an identifier from being made of it. In a folder the ids in use have to have stems of their
own. -/
theorem stored_layouts_stay_committable (start : UInt64) (requests : List Request) :
    (∀ s : State Memory, s.store = .empty → ∀ id,
      Stocked (inMemory start) ((inMemory start).run requests s) id
        ((inMemory start).lastKept id requests s none)) ∧
    ∀ (f : Folder) (s : State Disk), f.Vacant .configs s.store →
      ∀ Used : InventoryId → Prop,
        (∀ a b, Used a → Used b → a ≠ b → FileName.Apart a.text b.text) →
        (∀ r ∈ requests, ∀ id ∈ r.id?, Used id) → ∀ id, Used id →
          Stocked (inFolder f start) ((inFolder f start).run requests s) id
            ((inFolder f start).lastKept id requests s none) := by
  constructor
  · intro s empty id
    refine stocked_of_run Memory.keepsShelf requests (fun _ _ _ _ => trivial) ?_ trivial
    rw [empty]
    rfl
  · intro f s vacant Used apart used id here
    have keeps : KeepsShelf (inFolder f start).backend Used _ :=
      Folder.keepsShelf (Folder.told_of_apart apart)
    exact stocked_of_run keeps requests used (.of_vacant vacant) here

def pallets : InventoryId := ⟨"pallets", by decide⟩

def barrels : InventoryId := ⟨"barrels", by decide⟩

/-- A layout is saved, another one is refused, and the first goes on to be used. -/
def ordering : List Request :=
  let moment : Moment := ⟨⟨1700000000, 0⟩, ⟨1700000000, 0⟩, .cycle []⟩
  [.save moment pallets [{ kind := "SEQUENCE", format := some "D4" }],
    .save moment pallets [{ kind := "FIXED_TEXT", value := some " " }],
    .generate moment pallets none, .delete barrels]

theorem pallets_stay_stocked :
    Stocked (inMemory 1) ((inMemory 1).run ordering { store := .empty }) pallets
      ((inMemory 1).lastKept pallets ordering { store := .empty } none) ∧
    Stocked (inFolder ⟨["data"], "data"⟩ 1)
      ((inFolder ⟨["data"], "data"⟩ 1).run ordering
        { store := ((Folder.mk ["data"] "data").prepare .empty).2 }) pallets
      ((inFolder ⟨["data"], "data"⟩ 1).lastKept pallets ordering
        { store := ((Folder.mk ["data"] "data").prepare .empty).2 } none) := by
  have vacant : (Folder.mk ["data"] "data").Vacant .configs
      ((Folder.mk ["data"] "data").prepare .empty).2 := Folder.vacant_of_prepare_empty rfl
  have stay := stored_layouts_stay_committable 1 ordering
  refine ⟨stay.1 _ rfl pallets, stay.2 _ _ vacant (fun id => id = pallets ∨ id = barrels) ?_ ?_ _
    (.inl rfl)⟩
  · have short : ∀ id, id = pallets ∨ id = barrels → ¬ FileName.Long id.text := by
      rintro id (rfl | rfl) <;> exact FileName.not_long_of_utf8ByteSize_le (by decide)
    intro a b usedA usedB ne
    constructor
    · rcases usedA with rfl | rfl <;> rcases usedB with rfl | rfl <;>
        first | exact absurd rfl ne | decide
    · intro long
      exact absurd long (short a usedA)
  · intro r member id about
    simp only [ordering, List.mem_cons, List.not_mem_nil, or_false] at member
    rcases member with rfl | rfl | rfl | rfl <;> cases about
    · exact .inl rfl
    · exact .inl rfl
    · exact .inl rfl
    · exact .inr rfl

end Mint
end Mintmark
