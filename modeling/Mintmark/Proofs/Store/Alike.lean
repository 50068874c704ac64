import Mintmark.Proofs.Store.Filing
import Mintmark.Proofs.Store.Keys

/-!
# Stores answer alike

The store in memory, the one in a folder and the one on a server each keep a ledger, so a run of
operations gets the same answers from all of them, up to the times that each store notes for itself.
-/

namespace Mintmark.Store

/-- The time and the positions that the operation comes with have 64 bits. -/
structure Operation.Valid (op : Operation) : Prop where
  timed : ∀ id start now, op = .allocate id start now → Number.fits64 now = true
  numbered : ∀ stored, op = .save stored → stored.layout.Fits

/-- If the operation takes a value, a fresh counter starts below the limit. -/
def Operation.StartsBelow (limit : UInt64) (op : Operation) : Prop :=
  ∀ id start now, op = .allocate id start now → start < limit

namespace Ledger

theorem after_timeless (ops : List Operation) (l : Ledger) :
    backend.after (ops.map Operation.timeless) l = backend.after ops l := by
  induction ops generalizing l with
  | nil => rfl
  | cons op ops ih =>
    rw [List.map_cons]
    change backend.after (ops.map Operation.timeless) (backend.perform op.timeless l).2 = _
    rw [ih, perform_timeless]
    rfl

end Ledger

section

variable {ops other : List Operation}

theorem answers_memory (valid : ∀ op ∈ ops, op.Valid)
    (starts : ∀ op ∈ ops, op.StartsBelow Counter.maxValue) :
    (Memory.backend.answers ops .empty).map Answer.timeless = Ledger.backend.answers ops .empty ∧
      (Memory.backend.after ops .empty).counts = (Ledger.backend.after ops .empty).counts := by
  have fit : ∀ front op back, ops = front ++ op :: back →
      op.Fit (fun _ => True) (fun _ _ start _ => start < Counter.maxValue)
        (Ledger.backend.after front .empty).counts := by
    intro front op back eq
    have member : op ∈ ops := by simp [eq]
    exact ⟨trivial, (valid op member).numbered, starts op member⟩
  obtain ⟨answers, counts, -⟩ :=
    answers_ledger (s := .empty) Memory.keepsCounts Memory.keepsShelf fit rfl rfl
  exact ⟨answers, counts⟩

theorem answers_folder {f : Folder} {d : Disk} (vacant : ∀ drawer, f.Vacant drawer d)
    (valid : ∀ op ∈ ops, op.Valid)
    (apart : ∀ op ∈ ops, ∀ op' ∈ ops, op.id ≠ op'.id → FileName.Apart op.id.text op'.id.text) :
    (f.backend.answers ops d).map Answer.timeless = Ledger.backend.answers ops .empty := by
  have told : Folder.Told fun id => ∃ op ∈ ops, op.id = id := by
    apply Folder.told_of_apart
    rintro _ _ ⟨op, member, rfl⟩ ⟨op', member', rfl⟩
    exact apart op member op' member'
  refine (answers_ledger (Folder.keepsCounts told) (Folder.keepsShelf told) ?_ ?_ ?_).1
  · intro front op back eq
    have member : op ∈ ops := by simp [eq]
    exact ⟨⟨op, member, rfl⟩, (valid op member).numbered, (valid op member).timed⟩
  · exact ⟨fun _ => none, .of_vacant (vacant .sequences), fun _ => rfl⟩
  · exact .of_vacant (vacant .configs)

/-- A run that is the same up to times can be taken apart at the same place. -/
theorem split_of_timeless {front back : List Operation} {op : Operation}
    (same : (front ++ op :: back).map Operation.timeless = ops.map Operation.timeless) :
    ∃ front' op' back', ops = front' ++ op' :: back' ∧
      front.map Operation.timeless = front'.map Operation.timeless ∧ op.timeless = op'.timeless := by
  rw [List.map_append, List.map_cons] at same
  obtain ⟨front', rest, eq, before, behind⟩ := List.map_eq_append_iff.mp same.symm
  obtain ⟨op', back', eq', here, -⟩ := List.map_eq_cons_iff.mp behind
  exact ⟨front', op', back', by rw [eq, eq'], before.symm, here.symm⟩

theorem eq_allocate_of_timeless {op : Operation} {id : InventoryId} {start : UInt64} {now : Int}
    (same : (Operation.allocate id start now).timeless = op.timeless) :
    ∃ now', op = .allocate id start now' := by
  cases op with
  | allocate other start' now' =>
    cases same
    exact ⟨now', rfl⟩
  | peek | counter | save | load | remove => cases same

theorem answers_server (k : KeyValue) {onServer : List Operation}
    (same : onServer.map Operation.timeless = ops.map Operation.timeless)
    (valid : ∀ op ∈ ops, op.Valid) (valid' : ∀ op ∈ onServer, op.Valid)
    (starts : ∀ op ∈ ops, op.StartsBelow KeyValue.maxValue)
    (room : ∀ front id start now back, ops = front ++ .allocate id start now :: back →
      ∀ c, (Memory.backend.after front .empty).counters.find? id = some c →
        c.next ≠ KeyValue.maxValue) :
    (k.backend.answers onServer {}).map Answer.timeless = Ledger.backend.answers ops .empty := by
  have below : ∀ op ∈ ops, op.StartsBelow Counter.maxValue := fun op member id start now eq =>
    UInt64.lt_trans (starts op member id start now eq) (by decide)
  have fit : ∀ front op back, onServer = front ++ op :: back →
      op.Fit (fun _ => True) KeyValue.Allowed (Ledger.backend.after front .empty).counts := by
    intro front op back eq
    have member : op ∈ onServer := by simp [eq]
    refine ⟨trivial, (valid' op member).numbered, ?_⟩
    rintro id start now rfl
    obtain ⟨front', op', back', eq', before, here⟩ := split_of_timeless (eq ▸ same)
    obtain ⟨now', rfl⟩ := eq_allocate_of_timeless here
    refine ⟨starts _ (by simp [eq']) id start now' rfl, ?_, (valid' _ member).timed id start now rfl⟩
    -- the counts in memory tell how far the counter has come
    have within : ∀ op ∈ front', op ∈ ops := fun op member => by simp [eq', member]
    have counts := (answers_memory (fun op member => valid op (within op member))
      fun op member => below op (within op member)).2
    rw [← Ledger.after_timeless, before, Ledger.after_timeless, ← counts]
    intro c shown
    obtain ⟨found, there, rfl⟩ := Option.map_eq_some_iff.mp shown
    exact room front' id start now' back' eq' found there
  have shown : KeyValue.ShowsCounts k {} Ledger.empty.counts := by
    refine ⟨rfl, fun id => ⟨none, .missing, rfl⟩, fun id c member => ?_⟩
    cases member
  have shows : KeyValue.ShowsShelf k {} Ledger.empty.shelf := by
    refine ⟨rfl, fun id => rfl, fun id stored member => ?_⟩
    cases member
  have run := (answers_ledger (KeyValue.keepsCounts k) (KeyValue.keepsShelf k) fit shown shows).1
  rw [run, ← Ledger.answers_timeless, same, Ledger.answers_timeless]

/-- A run of operations gets the same answers, up to times, from a fresh store in memory and from one
in folders with nothing in them, as long as no counter starts full and no two ids share a GUID for
want of a shorter stem; also from a fresh store on a server, as long as no value is taken from a
counter that has come to the greatest number the server counts with. -/
theorem stores_answer_alike (f : Folder) (k : KeyValue) {d : Disk}
    (vacant : ∀ drawer, f.Vacant drawer d) {inMemory onDisk onServer : List Operation}
    (sameDisk : onDisk.map Operation.timeless = inMemory.map Operation.timeless)
    (sameServer : onServer.map Operation.timeless = inMemory.map Operation.timeless)
    (valid : ∀ op ∈ inMemory ++ onDisk ++ onServer, op.Valid)
    (apart : ∀ op ∈ onDisk, ∀ op' ∈ onDisk, op.id ≠ op'.id → FileName.Apart op.id.text op'.id.text)
    (starts : ∀ op ∈ inMemory, op.StartsBelow Counter.maxValue) :
    (Memory.backend.answers inMemory .empty).map Answer.timeless =
      (f.backend.answers onDisk d).map Answer.timeless ∧
    ((∀ op ∈ inMemory, op.StartsBelow KeyValue.maxValue) →
      (∀ front id start now back, inMemory = front ++ .allocate id start now :: back →
        ∀ c, (Memory.backend.after front .empty).counters.find? id = some c →
          c.next ≠ KeyValue.maxValue) →
      (Memory.backend.answers inMemory .empty).map Answer.timeless =
        (k.backend.answers onServer {}).map Answer.timeless) := by
  simp only [List.forall_mem_append] at valid
  obtain ⟨⟨valid, validDisk⟩, validServer⟩ := valid
  have ledger := (answers_memory valid starts).1
  constructor
  · rw [ledger, answers_folder vacant validDisk apart, ← Ledger.answers_timeless, ← sameDisk,
      Ledger.answers_timeless]
  · intro low room
    rw [ledger, answers_server k sameServer valid validServer low room]

def crates : InventoryId := ⟨"crates", by decide⟩

/-- Takes two values, looks at the counter and keeps a layout for a while. -/
def stocktaking (now : Int) : List Operation :=
  [.peek crates 5, .allocate crates 5 now, .allocate crates 9 (now + 1), .counter crates,
    .save ⟨crates, .ofList [.ofKind .sequence], "2024-01-01T00:00:00Z"⟩, .load crates,
    .remove crates, .load crates]

theorem start_of_mem_stocktaking {now now' : Int} {id : InventoryId} {start : UInt64}
    (member : Operation.allocate id start now' ∈ stocktaking now) :
    start < KeyValue.maxValue ∧ (now' = now ∨ now' = now + 1) := by
  simp only [stocktaking, List.mem_cons, List.not_mem_nil, or_false, reduceCtorEq, false_or,
    Operation.allocate.injEq] at member
  rcases member with ⟨-, rfl, same⟩ | ⟨-, rfl, same⟩
  · exact ⟨by decide, .inl same⟩
  · exact ⟨by decide, .inr same⟩

theorem valid_of_mem_stocktaking {now : Int} (fits : Number.fits64 now = true)
    (fits' : Number.fits64 (now + 1) = true) : ∀ op ∈ stocktaking now, op.Valid := by
  intro op member
  constructor
  · rintro id start now' rfl
    rcases (start_of_mem_stocktaking member).2 with rfl | rfl
    · exact fits
    · exact fits'
  · rintro stored rfl
    simp only [stocktaking, List.mem_cons, List.not_mem_nil, or_false, reduceCtorEq, false_or,
      Operation.save.injEq] at member
    rw [member]
    unfold Layout.Fits
    decide

theorem crates_counted_alike :
    (Memory.backend.answers (stocktaking 0) .empty).map Answer.timeless =
      ((Folder.mk ["data"] "data").backend.answers (stocktaking 60)
        ((Folder.mk ["data"] "data").prepare .empty).2).map Answer.timeless ∧
    (Memory.backend.answers (stocktaking 0) .empty).map Answer.timeless =
      ((KeyValue.mk "mint:").backend.answers (stocktaking 3600) {}).map Answer.timeless := by
  have vacant : ∀ drawer, (Folder.mk ["data"] "data").Vacant drawer
      ((Folder.mk ["data"] "data").prepare .empty).2 := fun _ => Folder.vacant_of_prepare_empty rfl
  have alike := stores_answer_alike (.mk ["data"] "data") (.mk "mint:") vacant
    (show (stocktaking 60).map Operation.timeless = (stocktaking 0).map Operation.timeless from rfl)
    (show (stocktaking 3600).map Operation.timeless = (stocktaking 0).map Operation.timeless from rfl)
    ?_ ?_ ?_
  · refine ⟨alike.1, alike.2 ?_ ?_⟩
    · rintro op member id start now rfl
      exact (start_of_mem_stocktaking member).1
    · intro front id start now back eq c found
      rcases front with _ | ⟨_, _ | ⟨_, _ | ⟨_, front⟩⟩⟩
      · cases eq
      · cases eq
        cases found
      · cases eq
        cases found
        decide
      · have late : Operation.allocate id start now ∈ (stocktaking 0).drop 3 := by
          rw [eq]
          simp
        simp [stocktaking] at late
  · intro op member
    rw [List.mem_append, List.mem_append] at member
    rcases member with (member | member) | member
    · exact valid_of_mem_stocktaking (by decide) (by decide) op member
    · exact valid_of_mem_stocktaking (by decide) (by decide) op member
    · exact valid_of_mem_stocktaking (by decide) (by decide) op member
  · have alone : ∀ op ∈ stocktaking 60, op.id = crates := by
      unfold stocktaking
      simp [Operation.id]
    intro op member op' member' ne
    exact absurd ((alone op member).trans (alone op' member').symm) ne
  · rintro op member id start now rfl
    exact UInt64.lt_trans (start_of_mem_stocktaking member).1 (by decide)

end

end Mintmark.Store
