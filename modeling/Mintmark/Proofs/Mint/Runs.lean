import Mintmark.Mint.Service

/-!
# Runs of a mint

Requests that are served one after another. Whatever relation the calls of a store keep to, from the
state before to the state after, all runs of a mint on that store keep to as well.
-/

namespace Mintmark.Mint

open Store

variable {σ α β : Type}

inductive Request where
  | validate (drafts : List Draft)
  | preview (moment : Moment) (drafts : List Draft)
  | previewFor (moment : Moment) (id : InventoryId) (drafts : Option (List Draft))
  | generate (moment : Moment) (id : InventoryId) (drafts : Option (List Draft))
  | save (moment : Moment) (id : InventoryId) (drafts : List Draft)
  | stored (id : InventoryId)
  | delete (id : InventoryId)
  | sequence (id : InventoryId)

def after (m : Mint σ) (s : State σ) : Request → State σ
  | .validate drafts => (validate drafts s).2
  | .preview moment drafts => (m.preview moment drafts s).2
  | .previewFor moment id drafts => (m.previewFor moment id drafts s).2
  | .generate moment id drafts => (m.generate moment id drafts s).2
  | .save moment id drafts => (m.save moment id drafts s).2
  | .stored id => (m.stored id s).2
  | .delete id => (m.delete id s).2
  | .sequence id => (m.sequence id s).2

def run (m : Mint σ) (requests : List Request) (s : State σ) : State σ := requests.foldl m.after s

/-- An identifier that was given out, with the layout it was made for. -/
structure Issue where
  id : InventoryId
  layout : Layout
  moment : Moment
  text : String

/-- What a request gives out, if it does. -/
def issue? (m : Mint σ) (s : State σ) : Request → Option Issue
  | .generate moment id drafts =>
    match (m.layoutFor id drafts s).1, (m.generate moment id drafts s).1 with
    | .ok layout, .ok text => some { id, layout, moment, text }
    | _, _ => none
  | _ => none

/-- All that a run gives out, in order. -/
def issues (m : Mint σ) : List Request → State σ → List Issue
  | [], _ => []
  | r :: rs, s => (m.issue? s r).toList ++ m.issues rs (m.after s r)

/-- The calls that a mint makes to its store, apart from those that change what layouts there are,
lead to states that the relation allows. -/
structure Observes (m : Mint σ) (R : σ → σ → Prop) : Prop where
  refl : ∀ s, R s s
  trans : ∀ s t u, R s t → R t u → R s u
  allocate : ∀ id now s, R s (m.backend.allocate id m.start now s).2
  peek : ∀ id s, R s (m.backend.peek id m.start s).2
  counter : ∀ id s, R s (m.backend.counter id s).2
  load : ∀ id s, R s (m.backend.load id s).2

/-- All calls that a mint makes to its store lead to states that the relation allows. -/
structure Respects (m : Mint σ) (R : σ → σ → Prop) : Prop extends m.Observes R where
  save : ∀ stored s, R s (m.backend.save stored s).2
  remove : ∀ id s, R s (m.backend.remove id s).2

/-- The action leads to stores that the relation allows. -/
def Along (R : σ → σ → Prop) (a : Action σ α) : Prop := ∀ s, R s.store (a s).2.store

section

variable {m : Mint σ} {R : σ → σ → Prop}

theorem along_call {c : Call σ α} (respects : ∀ s, R s (c s).2) : Along R (call c) := by
  intro s
  have step := respects s.store
  unfold call
  rcases made : c s.store with ⟨answer, store⟩
  rw [made] at step
  exact step

theorem along_andThen (trans : ∀ s t u, R s t → R t u → R s u) {first : Action σ α}
    {next : α → Action σ β} (one : Along R first) (two : ∀ a, Along R (next a)) :
    Along R (andThen first next) := by
  intro s
  have before := one s
  unfold andThen
  rcases made : first s with ⟨_ | a, t⟩ <;> rw [made] at before
  · exact before
  · exact trans _ _ _ before (two a t)

theorem along_of_store_eq (refl : ∀ s, R s s) {a : Action σ α} (same : ∀ s, (a s).2.store = s.store) :
    Along R a := by
  intro s
  rw [same s]
  exact refl s.store

theorem store_sequenceValue (m : Mint σ) (moment : Moment) (mode : Mode)
    (id? : Option InventoryId) (index : Nat) (s : State σ) :
    (m.sequenceValue moment mode id? index s).2.store = s.store ∨
      (∃ id, (m.sequenceValue moment mode id? index s).2.store =
        (m.backend.peek id m.start s.store).2) ∨
      mode = .commit ∧ ∃ id, (m.sequenceValue moment mode id? index s).2.store =
        (m.backend.allocate id m.start moment.wall.millis s.store).2 := by
  cases id? with
  | none => exact .inl rfl
  | some id =>
    cases mode with
    | preview => exact .inr (.inl ⟨id, rfl⟩)
    | commit =>
      right
      right
      refine ⟨rfl, id, ?_⟩
      simp only [sequenceValue]
      rcases m.backend.allocate id m.start moment.wall.millis s.store with ⟨_ | value, store⟩ <;> rfl

/-- What a render does to the store: nothing, or the one call that gives it a value, which only a
commit takes. -/
theorem store_render (m : Mint σ) (moment : Moment) (mode : Mode) (id? : Option InventoryId)
    (l : Layout) (s : State σ) :
    (m.render moment mode id? l s).2.store = s.store ∨
      (∃ id, (m.render moment mode id? l s).2.store = (m.backend.peek id m.start s.store).2) ∨
      mode = .commit ∧ ∃ id, (m.render moment mode id? l s).2.store =
        (m.backend.allocate id m.start moment.wall.millis s.store).2 := by
  simp only [render, compose]
  rcases l.check mode s.rules with ⟨_ | ⟨finding, findings⟩, rest⟩
  · dsimp only
    rcases compileAll 0 l.elements rest with ⟨_ | compiled, rules⟩
    · exact .inl rfl
    · simp only [fill]
      cases l.sequenceIndex? with
      | none => exact .inl rfl
      | some index =>
        have step := store_sequenceValue m moment mode id? index { s with rules }
        rcases done : m.sequenceValue moment mode id? index { s with rules } with ⟨_ | value, t⟩ <;>
          rw [done] at step <;> simp only [done] <;> exact step
  · exact .inl rfl

theorem along_render (observes : m.Observes R) (moment : Moment) (mode : Mode)
    (id? : Option InventoryId) (l : Layout) (s : State σ) :
    R s.store (m.render moment mode id? l s).2.store := by
  rcases store_render m moment mode id? l s with same | ⟨id, same⟩ | ⟨-, id, same⟩ <;> rw [same]
  · exact observes.refl s.store
  · exact observes.peek id s.store
  · exact observes.allocate id _ s.store

theorem along_resolve (observes : m.Observes R) (drafts : List Draft) :
    Along R (resolve drafts : Action σ Layout) :=
  along_of_store_eq observes.refl fun _ => rfl

theorem along_resolveForCommit (observes : m.Observes R) (drafts : List Draft) :
    Along R (resolveForCommit drafts : Action σ Layout) :=
  along_of_store_eq observes.refl fun _ => rfl

theorem along_stored (observes : m.Observes R) (id : InventoryId) : Along R (m.stored id) := by
  apply along_andThen observes.trans (along_call (observes.load id))
  intro found
  cases found <;> exact along_of_store_eq observes.refl fun _ => rfl

theorem along_layoutFor (observes : m.Observes R) (id : InventoryId)
    (drafts : Option (List Draft)) : Along R (m.layoutFor id drafts) := by
  cases drafts with
  | some drafts => exact along_resolve observes drafts
  | none =>
    exact along_andThen observes.trans (along_stored observes id) fun _ =>
      along_of_store_eq observes.refl fun _ => rfl

theorem along_previewLayout (observes : m.Observes R) (moment : Moment) (id? : Option InventoryId)
    (l : Layout) : Along R (m.previewLayout moment id? l) :=
  along_render observes moment .preview id? l

/-- The request leaves the layouts alone. -/
def Request.isObserving : Request → Bool
  | .save .. | .delete _ => false
  | .validate _ | .preview .. | .previewFor .. | .generate .. | .stored _ | .sequence _ => true

theorem store_after_observing (observes : m.Observes R) {r : Request}
    (observing : r.isObserving = true) (s : State σ) : R s.store (m.after s r).store := by
  cases r with
  | validate drafts =>
    exact along_andThen observes.trans (along_resolveForCommit observes drafts)
      (fun _ => along_of_store_eq observes.refl fun _ => rfl) s
  | preview moment drafts =>
    exact along_andThen observes.trans (along_resolve observes drafts)
      (fun l => along_previewLayout observes moment none l) s
  | previewFor moment id drafts =>
    exact along_andThen observes.trans (along_layoutFor observes id drafts)
      (fun l => along_previewLayout observes moment (some id) l) s
  | generate moment id drafts =>
    refine along_andThen observes.trans (along_layoutFor observes id drafts) (fun l t => ?_) s
    exact along_render observes moment .commit (some id) l t
  | stored id => exact along_stored observes id s
  | sequence id =>
    refine along_andThen observes.trans (along_call (observes.counter id)) (fun found => ?_) s
    cases found <;> exact along_of_store_eq observes.refl fun _ => rfl
  | save | delete => cases observing

theorem store_after (respects : m.Respects R) (r : Request) (s : State σ) :
    R s.store (m.after s r).store := by
  have observes := respects.toObserves
  cases r with
  | save moment id drafts =>
    refine along_andThen observes.trans (along_resolveForCommit observes drafts) (fun l => ?_) s
    exact along_andThen observes.trans (along_call (respects.save _)) fun _ =>
      along_of_store_eq observes.refl fun _ => rfl
  | delete id =>
    refine along_andThen observes.trans (along_call (respects.remove id)) (fun removed => ?_) s
    cases removed <;> exact along_of_store_eq observes.refl fun _ => rfl
  | validate | preview | previewFor | generate | stored | sequence =>
    exact store_after_observing observes rfl s

theorem store_run (respects : m.Respects R) (requests : List Request) (s : State σ) :
    R s.store (m.run requests s).store := by
  induction requests generalizing s with
  | nil => exact respects.refl s.store
  | cons r rs ih => exact respects.trans _ _ _ (store_after respects r s) (ih (m.after s r))

end

/-- What was given out is what a committed render of its layout answered. -/
theorem render_of_issue? {m : Mint σ} {s : State σ} {r : Request} {issue : Issue}
    (given : m.issue? s r = some issue) :
    ∃ drafts t, m.layoutFor issue.id drafts s = (.ok issue.layout, t) ∧
      m.renderCommitted issue.moment issue.id issue.layout t = (.ok issue.text, m.after s r) := by
  cases r with
  | generate moment id drafts =>
    simp only [issue?, generate, andThen] at given
    rcases found : m.layoutFor id drafts s with ⟨_ | l, t⟩ <;> rw [found] at given
    · cases given
    · dsimp only at given
      rcases rendered : m.renderCommitted moment id l t with ⟨_ | text, u⟩ <;>
        rw [rendered] at given <;> cases given
      refine ⟨drafts, t, found, ?_⟩
      simp only [after, generate, andThen, found, rendered]
  | validate | preview | previewFor | save | stored | delete | sequence => cases given

end Mintmark.Mint
