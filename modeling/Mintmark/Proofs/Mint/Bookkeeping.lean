import Mathlib.Algebra.BigOperators.Group.Finset.Piecewise
import Mintmark.Proofs.Mint.Effects

/-!
# Bookkeeping

A mint keeps a tally of its renders and of the values it was given, and the store keeps a version of
every counter. Nothing connects the two but the order in which things are done: a value is tallied
once the store has given it, and a render once it has ended, so that what stops before the render is
in none of the books.
-/

namespace Mintmark

/-- Some element shows the counter. -/
def Layout.isNumbered (l : Layout) : Bool := l.elements.any (·.kind == .sequence)

theorem Layout.sequenceIndex?_eq_none_iff_isNumbered (l : Layout) :
    l.sequenceIndex? = none ↔ l.isNumbered = false := by
  rw [l.sequenceIndex?_eq_none_iff, isNumbered, List.any_eq_false]
  exact forall₂_congr fun e _ => not_congr beq_iff_eq.symm

namespace Store.Memory

variable {m n : Memory} {id : InventoryId} {start value : UInt64} {now : Int}

/-- The inventories that have a counter. -/
def inventories (m : Memory) : Finset InventoryId := (m.counters.entries.map Prod.fst).toFinset

theorem mem_inventories : id ∈ m.inventories ↔ m.counters.find? id ≠ none := by
  rw [inventories, List.mem_toFinset, List.mem_map, Table.find?, Ne, List.lookup_eq_none_iff,
    not_forall₂]
  refine exists_congr fun e => ?_
  rw [exists_prop, Bool.not_eq_true, bne_eq_false_iff_eq, eq_comm]

/-- The versions of all counters together. -/
def totalVersion (m : Memory) : Nat := ∑ id ∈ m.inventories, m.version id

theorem sum_version {ids : Finset InventoryId} (all : m.inventories ⊆ ids) :
    ∑ id ∈ ids, m.version id = m.totalVersion := by
  symm
  apply Finset.sum_subset all
  intro id _ absent
  have missing : m.counters.find? id = none := not_not.mp (mt mem_inventories.mpr absent)
  rw [version, missing]
  rfl

theorem totalVersion_congr (same : ∀ id, n.version id = m.version id) :
    n.totalVersion = m.totalVersion := by
  have left : m.inventories ⊆ m.inventories ∪ n.inventories := Finset.subset_union_left
  have right : n.inventories ⊆ m.inventories ∪ n.inventories := Finset.subset_union_right
  rw [← sum_version left, ← sum_version right]
  exact Finset.sum_congr rfl fun id _ => same id

theorem totalVersion_of_counters (same : n.counters = m.counters) :
    n.totalVersion = m.totalVersion :=
  totalVersion_congr fun id => by rw [version, version, same]

/-- One value more of one inventory is one version more in the sum. -/
theorem Taken.totalVersion (taken : Taken id start m n) :
    n.totalVersion = m.totalVersion + 1 := by
  have left : m.inventories ⊆ insert id (m.inventories ∪ n.inventories) :=
    Finset.subset_union_left.trans (Finset.subset_insert ..)
  have right : n.inventories ⊆ insert id (m.inventories ∪ n.inventories) :=
    Finset.subset_union_right.trans (Finset.subset_insert ..)
  have own (other : InventoryId) :
      n.version other = m.version other + if other = id then 1 else 0 := by
    by_cases same : other = id
    · rw [same, if_pos rfl, taken.version]
    · rw [if_neg same, Memory.version, taken.others other same]
      rfl
  calc n.totalVersion
      = ∑ other ∈ insert id (m.inventories ∪ n.inventories), n.version other :=
        (sum_version right).symm
    _ = ∑ other ∈ insert id (m.inventories ∪ n.inventories), m.version other + 1 := by
        rw [Finset.sum_congr rfl fun other _ => own other, Finset.sum_add_distrib,
          Finset.sum_ite_eq', if_pos (Finset.mem_insert_self ..)]
    _ = m.totalVersion + 1 := by rw [sum_version left]

theorem stuck_of_error {error : StoreError} (failed : (allocate id start now m).1 = .error error) :
    (m.met id start now).advance? now = none := by
  rw [(counted_met m id start now).advance?_eq_none_iff, next_met]
  exact (peek_of_error failed).2

/-- A taking that fails leaves all versions as they were, also that of a counter it has made. -/
theorem version_allocate_of_error {error : StoreError}
    (failed : (allocate id start now m).1 = .error error) (other : InventoryId) :
    (allocate id start now m).2.version other = m.version other := by
  rw [version, find?_allocate, stuck_of_error failed]
  by_cases same : other = id
  · rw [if_pos same, same, ← version_met m id start now]
    rfl
  · rw [if_neg same]
    rfl

end Store.Memory

namespace Mint

open Store

variable {σ α β : Type}

/-- What a committed render comes to: it takes a value if the layout shows the counter, and tallies
it if it was given one. -/
inductive Committed (m : Mint σ) (moment : Moment) (id : InventoryId) (l : Layout) (s : State σ) :
    Except Finding String × State σ → Prop
  | refused {finding : Finding} {t : State σ} (same : t.store = s.store)
      (tallied : t.tally.allocations = s.tally.allocations) :
      Committed m moment id l s (.error finding, t)
  | uncounted {text : String} {t : State σ} (unnumbered : l.isNumbered = false)
      (same : t.store = s.store) (tallied : t.tally.allocations = s.tally.allocations) :
      Committed m moment id l s (.ok text, t)
  | counted {text : String} {value : UInt64} {t : State σ} (numbered : l.isNumbered = true)
      (answer : m.backend.allocate id m.start moment.wall.millis s.store = (.ok value, t.store))
      (tallied : t.tally.allocations = s.tally.allocations + 1) :
      Committed m moment id l s (.ok text, t)
  | unanswered {finding : Finding} {error : StoreError} {t : State σ}
      (answer : m.backend.allocate id m.start moment.wall.millis s.store = (.error error, t.store))
      (tallied : t.tally.allocations = s.tally.allocations) :
      Committed m moment id l s (.error finding, t)

theorem committed_renderCommitted (m : Mint σ) (moment : Moment) (id : InventoryId) (l : Layout)
    (s : State σ) : Committed m moment id l s (m.renderCommitted moment id l s) := by
  rw [renderCommitted, render]
  by_cases fit : l.Committable
  · obtain ⟨compiled, rules, all, composed⟩ := compose_of_committable fit m moment (some id) s
    rw [composed]
    cases place : l.sequenceIndex? with
    | none =>
      have absent := l.sequenceIndex?_eq_none_iff.mp place
      obtain ⟨pieces, assembled, -⟩ := assemble_ok moment.now none all
        (fun e member kind => absurd kind (absent e member)) 0 moment.words
      simp only [fill, place, assembled]
      exact .uncounted (l.sequenceIndex?_eq_none_iff_isNumbered.mp place) rfl rfl
    | some index =>
      have numbered : l.isNumbered = true := by
        rw [← Bool.not_eq_false, ← l.sequenceIndex?_eq_none_iff_isNumbered, place]
        exact Option.some_ne_none index
      rcases answer : m.backend.allocate id m.start moment.wall.millis s.store
        with ⟨error | value, store⟩
      · rw [fill_of_error (s := { s with rules }) compiled place answer]
        exact .unanswered answer rfl
      · obtain ⟨pieces, -, filled⟩ := fill_of_allocate (s := { s with rules }) all place answer
        rw [filled]
        exact .counted numbered answer rfl
  · obtain ⟨finding, findings, rules, -, composed⟩ :=
      compose_of_not_committable fit m moment (some id) s
    rw [composed]
    exact .refused rfl rfl

theorem tally_sequenceValue (m : Mint σ) (moment : Moment) (mode : Mode)
    (id? : Option InventoryId) (index : Nat) (s : State σ) :
    (m.sequenceValue moment mode id? index s).2.tally = s.tally ∨
      mode = .commit ∧
        (m.sequenceValue moment mode id? index s).2.tally = s.tally.addAllocation := by
  cases id? with
  | none => exact .inl rfl
  | some id =>
    cases mode with
    | preview => exact .inl rfl
    | commit =>
      simp only [sequenceValue]
      rcases m.backend.allocate id m.start moment.wall.millis s.store with ⟨_ | value, store⟩
      · exact .inl rfl
      · exact .inr ⟨trivial, rfl⟩

/-- Up to its end a render tallies nothing, or the value that a commit was given. -/
theorem tally_compose (m : Mint σ) (moment : Moment) (mode : Mode) (id? : Option InventoryId)
    (l : Layout) (s : State σ) :
    (m.compose moment mode id? l s).2.tally = s.tally ∨
      mode = .commit ∧ (m.compose moment mode id? l s).2.tally = s.tally.addAllocation := by
  simp only [compose]
  rcases l.check mode s.rules with ⟨_ | ⟨finding, findings⟩, rest⟩
  · dsimp only
    rcases compileAll 0 l.elements rest with ⟨_ | compiled, rules⟩
    · exact .inl rfl
    · simp only [fill]
      cases l.sequenceIndex? with
      | none => exact .inl rfl
      | some index =>
        have step := tally_sequenceValue m moment mode id? index { s with rules }
        rcases done : m.sequenceValue moment mode id? index { s with rules } with ⟨_ | value, t⟩ <;>
          rw [done] at step <;> simp only [done] <;> exact step
  · exact .inl rfl

theorem tally_render (m : Mint σ) (moment : Moment) (mode : Mode) (id? : Option InventoryId)
    (l : Layout) (s : State σ) :
    (m.render moment mode id? l s).2.tally =
      (m.compose moment mode id? l s).2.tally.addRender mode
        (m.render moment mode id? l s).1.toBool := rfl

/-- A render is tallied as it ended. -/
theorem renders_render (m : Mint σ) (moment : Moment) (mode : Mode) (id? : Option InventoryId)
    (l : Layout) (s : State σ) :
    (m.render moment mode id? l s).2.tally.renders =
      (s.tally.addRender mode (m.render moment mode id? l s).1.toBool).renders := by
  rw [tally_render]
  -- a value that was tallied on the way changes nothing about the renders
  rcases tally_compose m moment mode id? l s with same | ⟨-, same⟩ <;> rw [same]
  rfl

theorem allocations_renderPreview (m : Mint σ) (moment : Moment) (id? : Option InventoryId)
    (l : Layout) (s : State σ) :
    (m.renderPreview moment id? l s).2.tally.allocations = s.tally.allocations := by
  rw [renderPreview, tally_render]
  rcases tally_compose m moment .preview id? l s with same | ⟨commit, -⟩
  · rw [same]
    rfl
  · cases commit

/-- The action leaves the tally alone. -/
def Untallied (a : Action σ α) : Prop := ∀ s, (a s).2.tally = s.tally

theorem untallied_call (c : Call σ α) : Untallied (call c) := fun _ => rfl

theorem untallied_andThen {first : Action σ α} {next : α → Action σ β} (one : Untallied first)
    (two : ∀ a, Untallied (next a)) : Untallied (andThen first next) := by
  intro s
  have before := one s
  unfold andThen
  rcases made : first s with ⟨_ | a, t⟩ <;> rw [made] at before
  · exact before
  · exact (two a t).trans before

theorem untallied_stored (m : Mint σ) (id : InventoryId) : Untallied (m.stored id) := by
  refine untallied_andThen (untallied_call _) fun found s => ?_
  cases found <;> rfl

theorem untallied_layoutFor (m : Mint σ) (id : InventoryId) (drafts : Option (List Draft)) :
    Untallied (m.layoutFor id drafts) := by
  cases drafts with
  | some drafts => exact fun _ => rfl
  | none => exact untallied_andThen (untallied_stored m id) fun _ _ => rfl

/-- Mode and outcome of a render, judged by the answer to the request for it. A request that was
refused on other grounds did not come to render. -/
def ended? (mode : Mode) : Except Refusal String → Option (Mode × Bool)
  | .ok _ => some (mode, true)
  | .error (.renderFailed _) => some (mode, false)
  | .error _ => none

theorem ended?_mapError (mode : Mode) (answer : Except Finding String) :
    ended? mode (answer.mapError .renderFailed) = some (mode, answer.toBool) := by
  cases answer <;> rfl

/-- Mode and outcome of the render that a request led to, if it led to one. -/
def rendering? (m : Mint σ) (s : State σ) : Request → Option (Mode × Bool)
  | .preview moment drafts => ended? .preview (m.preview moment drafts s).1
  | .previewFor moment id drafts => ended? .preview (m.previewFor moment id drafts s).1
  | .generate moment id drafts => ended? .commit (m.generate moment id drafts s).1
  | .validate _ | .save .. | .stored _ | .delete _ | .sequence _ => none

/-- All renders of a run, in order. -/
def renderings (m : Mint σ) : List Request → State σ → List (Mode × Bool)
  | [], _ => []
  | r :: rs, s => (m.rendering? s r).toList ++ m.renderings rs (m.after s r)

/-- How many of the identifiers show a counter. -/
def numberedIssues (issues : List Issue) : Nat := issues.countP (·.layout.isNumbered)

/-- The tally went up by these renders and this many values. -/
structure Booked (s t : State σ) (renders : List (Mode × Bool)) (values : Nat) : Prop where
  renders : ∀ mode success,
    t.tally.renders mode success = s.tally.renders mode success + renders.count (mode, success)
  allocations : t.tally.allocations = s.tally.allocations + values

variable {s t u : State σ}

theorem booked_of_tally_eq (same : t.tally = s.tally) : Booked s t [] 0 := by
  constructor
  · intro mode success
    rw [same]
    rfl
  · rw [same]
    rfl

theorem Booked.trans {renders renders' : List (Mode × Bool)} {values values' : Nat}
    (first : Booked s t renders values) (second : Booked t u renders' values') :
    Booked s u (renders ++ renders') (values + values') where
  renders mode success := by
    rw [second.renders, first.renders, List.count_append, Nat.add_assoc]
  allocations := by rw [second.allocations, first.allocations, Nat.add_assoc]

theorem booked_render {m : Mint σ} {moment : Moment} {mode : Mode} {id? : Option InventoryId}
    {l : Layout} {values : Nat}
    (taken : (m.render moment mode id? l s).2.tally.allocations = s.tally.allocations + values) :
    Booked s (m.render moment mode id? l s).2 [(mode, (m.render moment mode id? l s).1.toBool)]
      values where
  renders other success := by
    rw [renders_render, Tally.addRender, List.count_singleton]
    simp only [beq_iff_eq, Prod.mk.injEq, @eq_comm _ mode, @eq_comm _ _ success]
  allocations := taken

theorem booked_preview (m : Mint σ) (moment : Moment) (id? : Option InventoryId) (l : Layout)
    (s : State σ) :
    Booked s (m.previewLayout moment id? l s).2
      (ended? .preview (m.previewLayout moment id? l s).1).toList 0 := by
  rw [previewLayout, ended?_mapError]
  exact booked_render (allocations_renderPreview m moment id? l s)

variable {m : Mint σ} {moment : Moment} {id : InventoryId} {l : Layout}

/-- How many values of the counter the identifier of a layout takes. -/
def valuesTaken (l : Layout) (answer : Except Finding String) : Nat :=
  if answer.toBool && l.isNumbered then 1 else 0

theorem Committed.allocations {done : Except Finding String × State σ}
    (committed : Committed m moment id l s done) :
    done.2.tally.allocations = s.tally.allocations + valuesTaken l done.1 := by
  cases committed with
  | refused _ tallied => exact tallied
  | uncounted unnumbered _ tallied =>
    rw [valuesTaken, unnumbered]
    exact tallied
  | counted numbered _ tallied =>
    rw [valuesTaken, numbered]
    exact tallied
  | unanswered _ tallied => exact tallied

theorem booked_renderCommitted (m : Mint σ) (moment : Moment) (id : InventoryId) (l : Layout)
    (s : State σ) :
    Booked s (m.renderCommitted moment id l s).2
      [(.commit, (m.renderCommitted moment id l s).1.toBool)]
      (valuesTaken l (m.renderCommitted moment id l s).1) :=
  booked_render (committed_renderCommitted m moment id l s).allocations

theorem refusal_of_andThen {first : Action σ α} {next : α → Action σ β} {refusal : Refusal}
    (refused : (andThen first next s).1 = .error refusal) :
    (first s).1 = .error refusal ∨ ∃ a t, first s = (.ok a, t) ∧ (next a t).1 = .error refusal := by
  unfold andThen at refused
  rcases made : first s with ⟨other | a, t⟩ <;> rw [made] at refused
  · cases refused
    exact .inl rfl
  · exact .inr ⟨a, t, rfl, refused⟩

/-- Whatever keeps a layout from being found, it is not a render. -/
theorem ended?_layoutFor {drafts : Option (List Draft)} {refusal : Refusal}
    (refused : (m.layoutFor id drafts s).1 = .error refusal) (mode : Mode) :
    ended? mode (.error refusal) = none := by
  cases drafts with
  | some drafts =>
    change (Layout.ofDrafts drafts).mapError Refusal.invalid = _ at refused
    cases described : Layout.ofDrafts drafts <;> rw [described] at refused <;> cases refused
    rfl
  | none =>
    rcases refusal_of_andThen refused with unfound | ⟨_, _, -, impossible⟩
    · rcases refusal_of_andThen unfound with failed | ⟨found, t, -, missing⟩
      · change (m.backend.load id s.store).1.mapError Refusal.storage = _ at failed
        cases loaded : (m.backend.load id s.store).1 <;> rw [loaded] at failed <;> cases failed
        rfl
      · cases found <;> cases missing
        rfl
    · cases impossible

/-- A preview is booked as one, if its layout is found. -/
theorem booked_previewed {first : Action σ Layout} (quiet : Untallied first)
    (early : ∀ refusal, (first s).1 = .error refusal → ended? .preview (.error refusal) = none)
    (moment : Moment) (id? : Option InventoryId) :
    let done := andThen first (m.previewLayout moment id?) s
    Booked s done.2 (ended? .preview done.1).toList 0 := by
  have same := quiet s
  unfold andThen
  rcases made : first s with ⟨refusal | l, t⟩ <;> rw [made] at same early
  · dsimp only
    rw [early refusal rfl]
    exact booked_of_tally_eq same
  · exact (booked_of_tally_eq same).trans (booked_preview m moment id? l t)

theorem numberedIssues_single (issue : Issue) :
    numberedIssues [issue] = valuesTaken issue.layout (.ok issue.text) := by
  rw [numberedIssues, List.countP_singleton]
  rfl

theorem booked_generate (m : Mint σ) (moment : Moment) (id : InventoryId)
    (drafts : Option (List Draft)) (s : State σ) :
    Booked s (m.generate moment id drafts s).2
      (ended? .commit (m.generate moment id drafts s).1).toList
      (numberedIssues (m.issue? s (.generate moment id drafts)).toList) := by
  have same := untallied_layoutFor m id drafts s
  rcases found : m.layoutFor id drafts s with ⟨refusal | l, t⟩ <;> rw [found] at same
  · have early := ended?_layoutFor (congrArg Prod.fst found) .commit
    simp only [generate, issue?, andThen, found]
    rw [early]
    exact booked_of_tally_eq same
  · have booked := (booked_of_tally_eq same).trans (booked_renderCommitted m moment id l t)
    rw [List.nil_append, Nat.zero_add] at booked
    simp only [generate, issue?, andThen, found, ended?_mapError]
    rcases made : m.renderCommitted moment id l t with ⟨finding | text, u⟩ <;> rw [made] at booked
    · exact booked
    · -- the identifier that was given out is the only one that the request adds to the issues
      rw [← numberedIssues_single { id, layout := l, moment, text }] at booked
      exact booked

/-- A request is booked as the render that it led to, and a value for an identifier with one. -/
theorem booked_after (m : Mint σ) (s : State σ) (r : Request) :
    Booked s (m.after s r) (m.rendering? s r).toList (numberedIssues (m.issue? s r).toList) := by
  cases r with
  | preview moment drafts =>
    refine booked_previewed (fun _ => rfl) (fun refusal refused => ?_) moment none
    cases described : Layout.ofDrafts drafts <;>
      simp only [resolve, described, Except.mapError] at refused <;> cases refused
    rfl
  | previewFor moment id drafts =>
    exact booked_previewed (untallied_layoutFor m id drafts)
      (fun _ refused => ended?_layoutFor refused .preview) moment (some id)
  | generate moment id drafts => exact booked_generate m moment id drafts s
  | validate drafts =>
    exact booked_of_tally_eq (untallied_andThen (fun _ => rfl) (fun _ _ => rfl) s)
  | save moment id drafts =>
    exact booked_of_tally_eq (untallied_andThen (fun _ => rfl)
      (fun _ => untallied_andThen (untallied_call _) fun _ _ => rfl) s)
  | stored id => exact booked_of_tally_eq (untallied_stored m id s)
  | delete id =>
    refine booked_of_tally_eq (untallied_andThen (untallied_call _) (fun removed t => ?_) s)
    cases removed <;> rfl
  | sequence id =>
    refine booked_of_tally_eq (untallied_andThen (untallied_call _) (fun found t => ?_) s)
    cases found <;> rfl

theorem booked_run (m : Mint σ) (requests : List Request) (s : State σ) :
    Booked s (m.run requests s) (m.renderings requests s)
      (numberedIssues (m.issues requests s)) := by
  induction requests generalizing s with
  | nil => exact booked_of_tally_eq rfl
  | cons r rs ih =>
    have booked := (booked_after m s r).trans (ih (m.after s r))
    rw [numberedIssues, numberedIssues, ← List.countP_append] at booked
    exact booked

/-- An identifier that was not rendered was not given out either, and the search for its layout is
all that was done. -/
theorem after_generate_of_unrendered {drafts : Option (List Draft)}
    (unrendered : m.rendering? s (.generate moment id drafts) = none) :
    m.issue? s (.generate moment id drafts) = none ∧
      m.after s (.generate moment id drafts) = (m.layoutFor id drafts s).2 := by
  rcases found : m.layoutFor id drafts s with ⟨refusal | l, t⟩ <;>
    simp only [rendering?, issue?, after, generate, andThen, found] at unrendered ⊢
  · exact ⟨trivial, trivial⟩
  · rw [ended?_mapError] at unrendered
    cases unrendered

theorem tally_after_of_unrendered {r : Request} (unrendered : m.rendering? s r = none) :
    (m.after s r).tally = s.tally := by
  have ungiven : m.issue? s r = none := by
    cases r with
    | generate moment id drafts => exact (after_generate_of_unrendered unrendered).1
    | validate | preview | previewFor | save | stored | delete | sequence => rfl
  have booked := booked_after m s r
  rw [unrendered, ungiven] at booked
  have renders : (m.after s r).tally.renders = s.tally.renders := funext₂ booked.renders
  exact congrArg₂ Tally.mk renders booked.allocations

section

variable {start : UInt64} {s : State Memory}

theorem Committed.versions {done : Except Finding String × State Memory}
    (committed : Committed (inMemory start) moment id l s done) :
    done.2.store.totalVersion = s.store.totalVersion + valuesTaken l done.1 := by
  cases committed with
  | refused same _ =>
    rw [same]
    rfl
  | uncounted unnumbered same _ =>
    rw [same, valuesTaken, unnumbered]
    rfl
  | counted numbered answer _ =>
    change Memory.allocate id start moment.wall.millis s.store = _ at answer
    have taken := Memory.taken_of_allocate (congrArg Prod.fst answer)
    rw [answer] at taken
    rw [valuesTaken, numbered]
    exact taken.totalVersion
  | unanswered answer _ =>
    -- a counter may be there now that was not, at its start and with a version of zero
    change Memory.allocate id start moment.wall.millis s.store = _ at answer
    have failed := congrArg Prod.fst answer
    have same := Memory.totalVersion_congr (Memory.version_allocate_of_error failed)
    rw [answer] at same
    exact same

theorem AllOrNothing.store_cases {ε : Type} {Q : Memory → Prop} {done : Except ε α × State Memory}
    (holds : AllOrNothing s Q done) : done.2.store = s.store ∨ Q done.2.store := by
  cases holds with
  | nothing same => exact .inl same
  | all holds => exact .inr holds

/-- The request is for an identifier. -/
def Request.isCommitting : Request → Bool
  | .generate .. => true
  | .validate _ | .preview .. | .previewFor .. | .save .. | .stored _ | .delete _ | .sequence _ =>
    false

/-- Only a request for an identifier touches a counter. -/
theorem counters_after {r : Request} (other : r.isCommitting = false) (s : State Memory) :
    ((inMemory start).after s r).store.counters = s.store.counters := by
  cases r with
  | generate => cases other
  | save moment id drafts =>
    rcases (allOrNothing_save start moment id drafts s).store_cases with same | ⟨-, -, same, -⟩
    · exact congrArg Memory.counters same
    · exact same
  | delete id =>
    rcases (allOrNothing_delete start id s).store_cases with same | ⟨-, same, -⟩
    · exact congrArg Memory.counters same
    · exact same
  | validate | preview | previewFor | stored | sequence =>
    exact congrArg Memory.counters (store_after_harmless rfl start s)

theorem counters_after_of_unrendered {r : Request}
    (unrendered : (inMemory start).rendering? s r = none) :
    ((inMemory start).after s r).store.counters = s.store.counters := by
  cases r with
  | generate moment id drafts => rw [(after_generate_of_unrendered unrendered).2, layoutFor_snd]
  | validate | preview | previewFor | save | stored | delete | sequence =>
    exact counters_after rfl s

/-- The versions go up with the identifiers that show a counter. -/
theorem versions_after (r : Request) :
    ((inMemory start).after s r).store.totalVersion =
      s.store.totalVersion + numberedIssues ((inMemory start).issue? s r).toList := by
  cases r with
  | generate moment id drafts =>
    have still := layoutFor_snd start id drafts s
    rcases found : (inMemory start).layoutFor id drafts s with ⟨refusal | l, t⟩ <;>
      rw [found] at still <;> cases still <;> simp only [after, generate, issue?, andThen, found]
    · rfl
    · have versions := (committed_renderCommitted (inMemory start) moment id l t).versions
      rcases made : (inMemory start).renderCommitted moment id l t with ⟨finding | text, u⟩ <;>
        rw [made] at versions
      · exact versions
      · rw [← numberedIssues_single { id, layout := l, moment, text }] at versions
        exact versions
  | validate | preview | previewFor | save | stored | delete | sequence =>
    exact Memory.totalVersion_of_counters (counters_after rfl s)

theorem versions_run (requests : List Request) :
    ((inMemory start).run requests s).store.totalVersion =
      s.store.totalVersion + numberedIssues ((inMemory start).issues requests s) := by
  induction requests generalizing s with
  | nil => rfl
  | cons r rs ih =>
    have rest := ih (s := (inMemory start).after s r)
    rw [versions_after r, Nat.add_assoc, numberedIssues, numberedIssues, ← List.countP_append] at rest
    exact rest

end

/-- The books of a mint on an empty store in memory agree after any run. The values tallied are as
many as the counters have gone up by, all together, and as the identifiers with a number that were
given out; the renders tallied are those that the answers tell of; and what is answered without a
render is in none of the books. -/
theorem tally_agrees_with_store (start : UInt64) (rules : Format.RuleCache)
    (requests : List Request) :
    let m := inMemory start
    let s : State Memory := { store := .empty, rules }
    let t := m.run requests s
    t.tally.allocations = t.store.totalVersion ∧
    t.tally.allocations = numberedIssues (m.issues requests s) ∧
    (∀ mode success,
      t.tally.renders mode success = (m.renderings requests s).count (mode, success)) ∧
    (∀ u r, m.rendering? u r = none →
      (m.after u r).tally = u.tally ∧ (m.after u r).store.counters = u.store.counters) := by
  intro m s t
  have booked := booked_run m requests s
  have versions : t.store.totalVersion = numberedIssues (m.issues requests s) :=
    (versions_run requests).trans (Nat.zero_add _)
  have allocations : t.tally.allocations = numberedIssues (m.issues requests s) :=
    booked.allocations.trans (Nat.zero_add _)
  refine ⟨allocations.trans versions.symm, allocations, fun mode success => ?_, ?_⟩
  · exact (booked.renders mode success).trans (Nat.zero_add _)
  · intro u r unrendered
    exact ⟨tally_after_of_unrendered unrendered, counters_after_of_unrendered unrendered⟩

end Mint
end Mintmark
