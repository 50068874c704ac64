import Mintmark.Mint.Refusal
import Mintmark.Mint.Render

/-!
# The services of a mint

Layouts come with a request or are stored for an inventory. Drafts are resolved before anything else
happens; what is stored has passed the check for a commit.
-/

namespace Mintmark.Mint

open Store

variable {σ : Type}

/-- A request on the state of a mint. -/
abbrev Action (σ α : Type) := State σ → Except Refusal α × State σ

/-- Calls the store. -/
def call {α : Type} (c : Call σ α) : Action σ α := fun s =>
  match c s.store with
  | (answer, store) => (answer.mapError .storage, { s with store })

/-- Goes on with the answer of an action unless it was refused. -/
def andThen {α β : Type} (first : Action σ α) (next : α → Action σ β) : Action σ β := fun s =>
  match first s with
  | (.ok a, s) => next a s
  | (.error refusal, s) => (.error refusal, s)

/-- Resolves drafts and checks them for a commit. -/
def resolveForCommit (drafts : List Draft) : Action σ Layout := fun s =>
  match Layout.checkDrafts .commit drafts s.rules with
  | (answer, rules) => (answer.mapError .invalid, { s with rules })

/-- Resolves drafts only. -/
def resolve (drafts : List Draft) : Action σ Layout := fun s =>
  ((Layout.ofDrafts drafts).mapError .invalid, s)

/-- The number of elements, if they could be stored. -/
def validate (drafts : List Draft) : Action σ Nat :=
  andThen (resolveForCommit drafts) fun l s => (.ok l.size, s)

def stored (m : Mint σ) (id : InventoryId) : Action σ StoredLayout :=
  andThen (call (m.backend.load id)) fun found s =>
    match found with
    | some stored => (.ok stored, s)
    | none => (.error (.notConfigured id.text), s)

def save (m : Mint σ) (moment : Moment) (id : InventoryId) (drafts : List Draft) :
    Action σ StoredLayout :=
  andThen (resolveForCommit drafts) fun l =>
    let stored : StoredLayout :=
      { inventory := id, layout := l, updatedAt := moment.wall.rfc3339 }
    andThen (call (m.backend.save stored)) fun _ s => (.ok stored, s)

def delete (m : Mint σ) (id : InventoryId) : Action σ Unit :=
  andThen (call (m.backend.remove id)) fun removed s =>
    if removed then (.ok (), s) else (.error (.notConfigured id.text), s)

/-- The layout of the drafts that came with a request, or the stored one. -/
def layoutFor (m : Mint σ) (id : InventoryId) : Option (List Draft) → Action σ Layout
  | some drafts => resolve drafts
  | none => andThen (m.stored id) fun stored s => (.ok stored.layout, s)

def previewLayout (m : Mint σ) (moment : Moment) (id? : Option InventoryId) (l : Layout) :
    Action σ String := fun s =>
  match m.renderPreview moment id? l s with
  | (answer, s) => (answer.mapError .renderFailed, s)

/-- An example for drafts that belong to no inventory. -/
def preview (m : Mint σ) (moment : Moment) (drafts : List Draft) : Action σ String :=
  andThen (resolve drafts) (m.previewLayout moment none)

/-- An example for an inventory. -/
def previewFor (m : Mint σ) (moment : Moment) (id : InventoryId) (drafts : Option (List Draft)) :
    Action σ String :=
  andThen (m.layoutFor id drafts) (m.previewLayout moment (some id))

/-- The identifier of a new record of an inventory. -/
def generate (m : Mint σ) (moment : Moment) (id : InventoryId) (drafts : Option (List Draft)) :
    Action σ String :=
  andThen (m.layoutFor id drafts) fun l s =>
    match m.renderCommitted moment id l s with
    | (answer, s) => (answer.mapError .renderFailed, s)

/-- The value to come and whether the counter exists. -/
def sequence (m : Mint σ) (id : InventoryId) : Action σ (UInt64 × Bool) :=
  andThen (call (m.backend.counter id)) fun found s =>
    match found with
    | some counter => (.ok (counter.next, true), s)
    | none => (.ok (m.start, false), s)

end Mintmark.Mint
