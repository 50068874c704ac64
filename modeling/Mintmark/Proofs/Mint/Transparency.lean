import Mintmark.Mint.Render
import Mintmark.Proofs.Format.Sharing
import Mintmark.Proofs.Layout.Inquiries

/-!
# The cache does not show

A render uses the cache for its check and for the rules of its elements, and for nothing else. Both
are inquiries, so whatever other clients do to a cache that is shared, and whether or not there is
room in it, a check finds and a render answers what they would with a cache that has seen nothing.
-/

namespace Mintmark.Mint

open Format Store

variable {σ : Type}

def compileInquiry : Nat → List Element → Inquiry (Except Finding (List Rule))
  | _, [] => .done (.ok [])
  | position, e :: es =>
    .ask e.kind e.formatText fun
      | .error problem => .done (.error (.about position .format problem))
      | .ok rule => (compileInquiry (position + 1) es).andThen fun rest => .done (rest.map (rule :: ·))

theorem alone_compileInquiry (position : Nat) (es : List Element) (cache : RuleCache) :
    (compileInquiry position es).alone cache = compileAll position es cache := by
  induction es generalizing position cache with
  | nil => rfl
  | cons e es ih =>
    rw [compileInquiry, Inquiry.alone, compileAll]
    rcases cache.rule e.kind e.formatText with ⟨_ | rule, rest⟩
    · rfl
    · dsimp only
      rw [Inquiry.alone_andThen, ih]
      rfl

/-- All that a render asks of the cache: the rules of a layout, or the finding that it stops at. -/
def inquiry (mode : Mode) (l : Layout) : Inquiry (Except Finding (List Rule)) :=
  (l.inquiry mode).andThen fun
    | finding :: _ => .done (.error finding)
    | [] => compileInquiry 0 l.elements

/-- A render after its inquiry. -/
def conclude (m : Mint σ) (moment : Moment) (mode : Mode) (id? : Option InventoryId) (l : Layout)
    (found : Except Finding (List Rule)) (s : State σ) : Except Finding String × State σ :=
  match found with
  | .error finding => (.error finding, s)
  | .ok compiled => m.fill moment mode id? l compiled s

theorem compose_eq (m : Mint σ) (moment : Moment) (mode : Mode) (id? : Option InventoryId)
    (l : Layout) (s : State σ) :
    m.compose moment mode id? l s =
      m.conclude moment mode id? l (inquiry mode l).value
        { s with rules := ((inquiry mode l).alone s.rules).2 } := by
  rw [← Inquiry.alone_fst _ s.rules, inquiry, Inquiry.alone_andThen, Layout.alone_inquiry, compose]
  rcases l.check mode s.rules with ⟨_ | ⟨finding, findings⟩, rest⟩
  · dsimp only
    rw [alone_compileInquiry]
    rcases compileAll 0 l.elements rest with ⟨_ | compiled, rules⟩ <;> rfl
  · rfl

theorem sequenceValue_rules (m : Mint σ) (moment : Moment) (mode : Mode)
    (id? : Option InventoryId) (index : Nat) (s : State σ) (rules : RuleCache) :
    m.sequenceValue moment mode id? index { s with rules } =
      ((m.sequenceValue moment mode id? index s).1,
        { (m.sequenceValue moment mode id? index s).2 with rules }) := by
  cases id? with
  | none => rfl
  | some id =>
    cases mode with
    | preview => rfl
    | commit =>
      simp only [sequenceValue]
      rcases m.backend.allocate id m.start moment.wall.millis s.store with ⟨_ | value, store⟩ <;> rfl

/-- Once the rules are there the cache plays no part. -/
theorem fill_rules (m : Mint σ) (moment : Moment) (mode : Mode) (id? : Option InventoryId)
    (l : Layout) (compiled : List Rule) (s : State σ) (rules : RuleCache) :
    m.fill moment mode id? l compiled { s with rules } =
      ((m.fill moment mode id? l compiled s).1,
        { (m.fill moment mode id? l compiled s).2 with rules }) := by
  unfold fill
  cases l.sequenceIndex? with
  | none => rfl
  | some index =>
    dsimp only
    rw [sequenceValue_rules]
    rcases m.sequenceValue moment mode id? index s with ⟨_ | value, t⟩ <;> rfl

/-- The two states differ at most in their caches. -/
structure State.Alike (s t : State σ) : Prop where
  store : s.store = t.store
  tally : s.tally = t.tally

/-- With another cache a render answers the same and leaves the same behind, apart from the cache. -/
theorem render_rules (m : Mint σ) (moment : Moment) (mode : Mode) (id? : Option InventoryId)
    (l : Layout) (s : State σ) (rules : RuleCache) :
    (m.render moment mode id? l { s with rules }).1 = (m.render moment mode id? l s).1 ∧
      (m.render moment mode id? l { s with rules }).2.Alike (m.render moment mode id? l s).2 := by
  simp only [render, compose_eq]
  cases (inquiry mode l).value with
  | error finding => exact ⟨rfl, rfl, rfl⟩
  | ok compiled => refine ⟨?_, ?_, ?_⟩ <;> simp only [conclude, fill_rules]

/-- Whatever the schedule, from a cache that holds nothing: calls are answered as compiling answers,
and the cache only grows, in order and within its bounds. The checks of layouts and drafts and the
renders are work with such calls, and what they come to is the same with every cache. -/
theorem shared_cache_never_shows {α : Type} (moves : List (Sharing.Move α)) :
    (Sharing.State.run {} moves).Reliable ∧
    (∀ mode l cache, (Layout.inquiry mode l).alone cache = l.check mode cache ∧
      (l.check mode cache).1 = (l.inquiry mode).value) ∧
    (∀ mode drafts cache,
      (Layout.draftsInquiry mode drafts).alone cache = Layout.checkDrafts mode drafts cache ∧
        (Layout.checkDrafts mode drafts cache).1 = (Layout.draftsInquiry mode drafts).value) ∧
    (∀ (σ : Type) (m : Mint σ) moment mode id? l (t : State σ),
      m.compose moment mode id? l t =
          m.conclude moment mode id? l (inquiry mode l).value
            { t with rules := ((inquiry mode l).alone t.rules).2 } ∧
        ∀ rules, (m.render moment mode id? l { t with rules }).1 = (m.render moment mode id? l t).1 ∧
          (m.render moment mode id? l { t with rules }).2.Alike (m.render moment mode id? l t).2) := by
  refine ⟨(Sharing.kept_start.run moves).reliable, ?_, ?_, ?_⟩
  · intro mode l cache
    exact ⟨l.alone_inquiry mode cache, l.check_fst mode cache⟩
  · intro mode drafts cache
    exact ⟨Layout.alone_draftsInquiry mode drafts cache, Layout.checkDrafts_fst mode drafts cache⟩
  · intro σ m moment mode id? l t
    exact ⟨m.compose_eq moment mode id? l t, m.render_rules moment mode id? l t⟩

/-- Two calls for one rule, both of which missed it and have compiled it. -/
def rivals : List (Sharing.Move (Except Problem Rule)) :=
  [.arrive (.ask .sequence "D4" .done), .arrive (.ask .sequence "D4" .done), .go 0, .go 1, .go 0,
    .go 1]

theorem rivals_keep_one_rule :
    ∃ sound, (Sharing.State.run {} rivals).clients[1]? =
        some ⟨.ask .sequence "D4" .done, .keeping .sequence "D4" .done
          (.numeric ⟨.decimal, 4, true⟩) sound⟩ ∧
      (Sharing.State.run {} (rivals ++ [.go 1, .go 0])).cache.find? ⟨.sequence, "D4"⟩ =
        some (.numeric ⟨.decimal, 4, true⟩) := by
  refine ⟨by rfl, by rfl, ?_⟩
  exact (shared_cache_never_shows rivals).1.keeps (i := 1) (by rfl) rfl (by decide) [.go 0]

end Mintmark.Mint
