import Mintmark.Http.Api
import Mintmark.Proofs.Layout.Readback
import Mintmark.Proofs.Mint.Stock

/-!
# What was got can be put back

A client that gets the layout of an inventory and puts its elements back, or all that it was given,
saves the layout that was there. Nothing is lost on the way, for whatever is written is read back,
and a stored layout passes the check again.
-/

namespace Mintmark.Http

open Json (Value)
open Mint (Moment State Proper inMemory inFolder keeps_run save_of_committable stored_of_shows)
open Store

/-- The request is declared to hold JSON and holds this value, in either of its texts, and they are
not too long to be taken in. -/
structure Request.Carries (r : Request) (v : Value) : Prop where
  declared : ∃ contentType, r.header? "content-type" = some contentType ∧
    MediaType.isJson contentType = true
  text : r.body = v.text.toUTF8 ∨ r.body = v.prettyText.toUTF8
  short : r.body.size ≤ bodyLimit

theorem requiredDrafts_of_carries {r : Request} {v : Value} {drafts : List Draft}
    (carries : r.Carries v) (reads : v.ReadsAs decodeDrafts drafts) :
    requiredDrafts r = .ok drafts := by
  obtain ⟨contentType, header, isJson⟩ := carries.declared
  have read : Json.Decoder.ofBytes decodeDrafts r.body = .ok drafts := by
    rcases carries.text with text | text
    · rw [text, Json.Decoder.ofBytes_toUTF8, reads.line]
    · rw [text, Json.Decoder.ofBytes_toUTF8, reads.indented]
  have taken : takenBody r = .ok r.body := if_pos carries.short
  simp only [requiredDrafts, header, isJson, taken, read]
  rfl

/-- The captured part of the path is the id of the inventory. -/
def Names (captured : List String) (id : InventoryId) : Prop :=
  ∃ text, capturedText captured = .ok text ∧ inventoryId text = .ok id

section

variable {σ : Type} {service : Service σ} {captured : List String} {id : InventoryId}

theorem answer_getLayout (names : Names captured id) (service : Service σ) (moment : Moment)
    (request : Request) (s : State σ) :
    service.answer moment request captured .getLayout s =
      run (service.mint.stored id) (fun stored => success stored.encode) s := by
  obtain ⟨text, captures, parses⟩ := names
  simp only [Service.answer, withId, check, captures, parses]

theorem answer_putLayout (names : Names captured id) {request : Request} {drafts : List Draft}
    (given : requiredDrafts request = .ok drafts) (service : Service σ) (moment : Moment)
    (s : State σ) :
    service.answer moment request captured .putLayout s =
      run (service.mint.save moment id drafts) (fun stored => success stored.encode) s := by
  obtain ⟨text, captures, parses⟩ := names
  simp only [Service.answer, check, captures, parses, given]

/-- The record of an inventory is given out. Its elements, or all of the record as it was given, are
read as the drafts of its layout, and saving these stores the same layout again, at the time of
saving. So does whoever puts either of them back. -/
structure Resaves (service : Service σ) (captured : List String) (id : InventoryId) (s : State σ)
    (stored : StoredLayout) : Prop where
  got : ∀ moment get, (service.answer moment get captured .getLayout s).1 = success stored.encode
  read : stored.layout.body.ReadsAs decodeDrafts stored.layout.toDrafts ∧
    stored.encode.ReadsAs decodeDrafts stored.layout.toDrafts
  saved : ∀ moment get later,
    let fetched := (service.answer moment get captured .getLayout s).2
    let done := service.mint.save later id stored.layout.toDrafts fetched
    let again : StoredLayout := { stored with updatedAt := later.wall.rfc3339 }
    done.1 = .ok again ∧ (service.mint.stored id done.2).1 = .ok again
  put : ∀ moment get later put, put.Carries stored.layout.body ∨ put.Carries stored.encode →
    let fetched := (service.answer moment get captured .getLayout s).2
    let done := service.answer later put captured .putLayout fetched
    let again : StoredLayout := { stored with updatedAt := later.wall.rfc3339 }
    done.1 = success again.encode ∧ (service.mint.stored id done.2).1 = .ok again

/-- Saving the drafts of a stored layout stores that layout again. -/
theorem save_again {mint : Mint σ} {Used : InventoryId → Prop} {Shows : σ → Shelf → Prop}
    {shelf : Shelf} {s : State σ} {stored : StoredLayout}
    (keeps : KeepsShelf mint.backend Used Shows) (used : Used stored.inventory)
    (shows : Shows s.store shelf) (fit : stored.layout.Committable) (later : Moment) :
    let done := mint.save later stored.inventory stored.layout.toDrafts s
    let again : StoredLayout := { stored with updatedAt := later.wall.rfc3339 }
    done.1 = .ok again ∧ (mint.stored stored.inventory done.2).1 = .ok again := by
  obtain ⟨rules, store, saved, shows'⟩ :=
    save_of_committable keeps used shows later stored.layout.ofDrafts_toDrafts fit
  intro done again
  have stores : done = (.ok again, { s with rules, store }) := saved
  rw [stores]
  refine ⟨rfl, ?_⟩
  obtain ⟨_, -, -, asked⟩ := stored_of_shows (s := { s with rules, store }) keeps used shows'
  rw [asked, Function.update_self]
  rfl

theorem resaves_of_shows {Used : InventoryId → Prop} {Shows : σ → Shelf → Prop} {shelf : Shelf}
    {s : State σ} {stored : StoredLayout} (keeps : KeepsShelf service.mint.backend Used Shows)
    (used : Used id) (shows : Shows s.store shelf)
    (proper : ∀ stored ∈ shelf id, Proper id stored) (names : Names captured id)
    (there : (service.mint.stored id s).1 = .ok stored) : Resaves service captured id s stored := by
  obtain ⟨store, -, still, asked⟩ := stored_of_shows keeps used shows
  have here : shelf id = some stored := by
    rw [asked] at there
    cases found : shelf id with
    | none =>
      rw [found] at there
      cases there
    | some record =>
      rw [found] at there
      cases there
      rfl
  rw [here] at asked
  obtain ⟨rfl, fit⟩ := proper stored here
  have fetched (moment : Moment) (get : Request) :
      service.answer moment get captured .getLayout s = (success stored.encode, { s with store }) := by
    rw [answer_getLayout names, run, asked]
    rfl
  have elements := Layout.body_readsAs fit.fits
  have record := StoredLayout.encode_readsAs_drafts fit.fits
  have again (later : Moment) := save_again keeps used (s := { s with store }) still fit later
  refine ⟨fun moment get => by rw [fetched], ⟨elements, record⟩, fun moment get later => ?_, ?_⟩
  · rw [fetched]
    exact again later
  · intro moment get later put carries
    have drafts : requiredDrafts put = .ok stored.layout.toDrafts :=
      carries.elim (requiredDrafts_of_carries · elements) (requiredDrafts_of_carries · record)
    obtain ⟨saved, kept⟩ := again later
    simp only [fetched, answer_putLayout names drafts, run]
    rcases made : service.mint.save later stored.inventory stored.layout.toDrafts { s with store }
      with ⟨answer, t⟩
    rw [made] at saved kept
    subst saved
    exact ⟨rfl, kept⟩

end

/-- Whatever can be written is read back as it was: layouts as layouts and as drafts, records and
counters. So what a client gets for an inventory, after whatever was asked of the mint since its
store was empty, it can put back unchanged. -/
theorem wire_forms_read_back :
    (∀ l : Layout, l.Built → l.ReadBack) ∧
    (∀ stored : StoredLayout, stored.layout.Built →
      stored.encode.ReadsAs StoredLayout.decode stored) ∧
    (∀ c : Counter, c.Timed → c.encode.ReadsAs Counter.decode c) ∧
    (∀ (service : Service Memory) start, service.mint = inMemory start →
      ∀ (requests : List Mint.Request) (s : State Memory), s.store = .empty →
        ∀ captured id, Names captured id →
          ∀ stored, (service.mint.stored id (service.mint.run requests s)).1 = .ok stored →
            Resaves service captured id (service.mint.run requests s) stored) ∧
    ∀ (f : Folder) (service : Service Disk) start, service.mint = inFolder f start →
      ∀ (requests : List Mint.Request) (s : State Disk), f.Vacant .configs s.store →
        ∀ Used : InventoryId → Prop,
          (∀ a b, Used a → Used b → a ≠ b → FileName.Apart a.text b.text) →
          (∀ r ∈ requests, ∀ id ∈ r.id?, Used id) →
            ∀ captured id, Names captured id → Used id →
              ∀ stored, (service.mint.stored id (service.mint.run requests s)).1 = .ok stored →
                Resaves service captured id (service.mint.run requests s) stored := by
  refine ⟨fun l built => Layout.readBack_of_fits built.fits, ?_, ?_, ?_, ?_⟩
  · intro stored built
    exact readsAs_of_plain (StoredLayout.plain_encode built.fits)
      (StoredLayout.decode_encode built.fits)
  · intro c timed
    exact readsAs_of_plain (Counter.plain_encode timed) (Counter.decode_encode timed)
  · intro service start same requests s empty captured id names stored there
    have keeps : KeepsShelf service.mint.backend (fun _ => True) fun m shelf =>
        m.layouts.find? = shelf := by
      rw [same]
      exact Memory.keepsShelf
    have shows : s.store.layouts.find? = fun _ => none := by
      rw [empty]
      rfl
    obtain ⟨shows, proper⟩ := keeps_run keeps requests (fun _ _ _ _ => trivial) shows (by simp)
    exact resaves_of_shows keeps trivial shows (proper id) names there
  · intro f service start same requests s vacant Used apart used captured id names here stored there
    have keeps : KeepsShelf service.mint.backend Used (Folder.Holds f .layouts Used) := by
      rw [same]
      exact Folder.keepsShelf (Folder.told_of_apart apart)
    obtain ⟨shows, proper⟩ := keeps_run keeps requests used (.of_vacant vacant) (by simp)
    exact resaves_of_shows keeps here shows (proper id) names there

/-- A position stands for two elements, others for none, and a value that is empty stands beside one
that is missing. -/
def uneven : Layout :=
  .ofElements [{ kind := .guid, order := 7 }, { kind := .fixedText, value := some "", order := 2 },
    { kind := .sequence, format := some "", order := 2 }]

def evening : Moment := ⟨⟨1700000000, 0⟩, ⟨1700000000, 0⟩, .cycle []⟩

def depot : Service Memory := { mint := inMemory 1, routes := [], recording := false }

def saving : List Mint.Request :=
  [.save evening Mint.pallets [{ kind := "SEQUENCE", format := some "D4" }]]

theorem uneven_read_back :
    uneven.ReadBack ∧ ∃ stored,
      Resaves depot ["pallets"] Mint.pallets (depot.mint.run saving { store := .empty }) stored := by
  obtain ⟨layouts, -, -, resaves, -⟩ := wire_forms_read_back
  constructor
  · exact layouts uneven (.sorted (by decide))
  · have names : Names ["pallets"] Mint.pallets := by
      refine ⟨"pallets", by cbv, ?_⟩
      rw [inventoryId, show InventoryId.parse "pallets" = _ from Mint.pallets.parse_text]
      rfl
    refine ⟨evening.record Mint.pallets (.ofList [{ kind := .sequence, format := some "D4" }]), ?_⟩
    exact resaves depot 1 rfl saving { store := .empty } rfl _ _ names _ (by cbv)

end Mintmark.Http
