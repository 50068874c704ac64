import Mintmark.Layout.Check
import Mintmark.Proofs.Format.Inquiry

/-!
# Checks as inquiries

All that a check asks of the cache are rules, one after another, so it is an inquiry. What it finds
is the value of the inquiry and the same with every cache.
-/

namespace Mintmark

open Format

def Element.inquiry (position : Nat) (e : Element) : Inquiry (List Finding) :=
  let value :=
    if e.kind.requiresValue && Text.allBlank e.valueText then
      [Finding.about position .value (.missing .value)]
    else []
  if e.kind.requiresFormat && e.formatText.isEmpty then
    .done (value ++ [Finding.about position .format (.missing .format)])
  else
    .ask e.kind e.formatText fun
      | .ok _ => .done value
      | .error problem => .done (value ++ [Finding.about position .format problem])

theorem Element.alone_inquiry (e : Element) (position : Nat) (cache : RuleCache) :
    (e.inquiry position).alone cache = e.check position cache := by
  unfold inquiry check
  by_cases bare : (e.kind.requiresFormat && e.formatText.isEmpty) = true
  · rw [if_pos bare, if_pos bare]
    rfl
  · rw [if_neg bare, if_neg bare, Inquiry.alone]
    rcases cache.rule e.kind e.formatText with ⟨_ | rule, rest⟩ <;> rfl

def Draft.inquiry (position : Nat) (d : Draft) : Inquiry (List Finding) :=
  match d.toElement? position with
  | some e => e.inquiry position
  | none => .done [Finding.about position .kind (.unknownKind d.kind)]

theorem Draft.alone_inquiry (d : Draft) (position : Nat) (cache : RuleCache) :
    (d.inquiry position).alone cache = d.check position cache := by
  unfold inquiry check
  cases d.toElement? position with
  | some e => exact e.alone_inquiry position cache
  | none => rfl

namespace Layout

/-- Inquires into items one after another from a position on. -/
def inquiryEach {α : Type} (inquiry : Nat → α → Inquiry (List Finding)) :
    Nat → List α → Inquiry (List Finding)
  | _, [] => .done []
  | position, a :: as =>
    (inquiry position a).andThen fun first =>
      (inquiryEach inquiry (position + 1) as).andThen fun rest => .done (first ++ rest)

theorem alone_inquiryEach {α : Type} {inquiry : Nat → α → Inquiry (List Finding)}
    {check : Nat → α → RuleCache → List Finding × RuleCache}
    (each : ∀ position a cache, (inquiry position a).alone cache = check position a cache)
    (position : Nat) (as : List α) (cache : RuleCache) :
    (inquiryEach inquiry position as).alone cache = checkEach check position as cache := by
  induction as generalizing position cache with
  | nil => rfl
  | cons a as ih =>
    simp only [inquiryEach, Inquiry.alone_andThen, each, ih]
    rfl

def inquiry (mode : Mode) (l : Layout) : Inquiry (List Finding) :=
  (inquiryEach (fun i e => e.inquiry i) 0 l.elements).andThen fun each =>
    .done (checkSize mode l.size ++ checkOrders l.elements ++ each)

theorem alone_inquiry (mode : Mode) (l : Layout) (cache : RuleCache) :
    (l.inquiry mode).alone cache = l.check mode cache := by
  have each := alone_inquiryEach (fun i e => Element.alone_inquiry e i) 0 l.elements cache
  rw [inquiry, Inquiry.alone_andThen, each]
  rfl

/-- What a check finds is the same with every cache. -/
theorem check_fst (mode : Mode) (l : Layout) (cache : RuleCache) :
    (l.check mode cache).1 = (l.inquiry mode).value := by
  rw [← alone_inquiry, Inquiry.alone_fst]

def draftsInquiry (mode : Mode) (drafts : List Draft) : Inquiry (Except (List Finding) Layout) :=
  match ofDrafts drafts with
  | .ok l =>
    (l.inquiry mode).andThen fun
      | [] => .done (.ok l)
      | findings => .done (.error findings)
  | .error _ =>
    (inquiryEach (fun i d => d.inquiry i) 0 drafts).andThen fun each =>
      .done (.error (checkCount drafts.length ++ each))

theorem alone_draftsInquiry (mode : Mode) (drafts : List Draft) (cache : RuleCache) :
    (draftsInquiry mode drafts).alone cache = checkDrafts mode drafts cache := by
  unfold draftsInquiry checkDrafts
  cases ofDrafts drafts with
  | ok l =>
    dsimp only
    rw [Inquiry.alone_andThen, alone_inquiry]
    rcases l.check mode cache with ⟨_ | ⟨finding, findings⟩, rest⟩ <;> rfl
  | error findings =>
    have each := alone_inquiryEach (fun i d => Draft.alone_inquiry d i) 0 drafts cache
    dsimp only
    rw [Inquiry.alone_andThen, each]
    rfl

theorem checkDrafts_fst (mode : Mode) (drafts : List Draft) (cache : RuleCache) :
    (checkDrafts mode drafts cache).1 = (draftsInquiry mode drafts).value := by
  rw [← alone_draftsInquiry, Inquiry.alone_fst]

end Layout
end Mintmark
