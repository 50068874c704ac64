import Mintmark.Proofs.Store.Processes

/-!
# Turns

What a move can do to one process and to the disk, whether it goes as it is meant to or fails before
or after it has taken effect. Nothing but a `Turn.published` changes a document, and nothing but
that brings a value nearer to being returned. Every move that changes anything besides letting a process
arrive is a turn, which is `move_cases`.
-/

namespace Mintmark.Store.Processes

open Folder (Stands content? setContent)

variable {f : Folder} {r : Request} {d d' : Disk} {id other : InventoryId} {s : State}

/-- The inventories have the same files. -/
def Shares (a b : InventoryId) : Prop := FileName.stem a.text = FileName.stem b.text

instance (a b : InventoryId) : Decidable (Shares a b) := inferInstanceAs (Decidable (_ = _))

theorem Shares.refl (a : InventoryId) : Shares a a := rfl

/-- The bytes of the document of an inventory. -/
def data? (f : Folder) (d : Disk) (id : InventoryId) : Option ByteArray :=
  content? f .sequences d (FileName.dataFile id.text)

def temp? (f : Folder) (d : Disk) (id : InventoryId) : Option ByteArray :=
  content? f .sequences d (FileName.tempFile id.text)

theorem data?_of_shares (shares : Shares id other) (f : Folder) (d : Disk) :
    data? f d id = data? f d other := by
  rw [data?, data?, (FileName.dataFile_inj ..).mpr shares]

theorem lock_effect (stands : Stands f .sequences d) (id : InventoryId) :
    ∃ d', f.lock .sequences id d = (.ok (), d') ∧ Stands f .sequences d' ∧
      data? f d' = data? f d ∧ temp? f d' = temp? f d := by
  obtain ⟨d', touched, becomes⟩ := Folder.touch_becomes stands (FileName.lockFile id.text)
  refine ⟨d', ?_, becomes.stands stands, ?_, ?_⟩
  · rw [Folder.lock, Folder.lockPath, touched]
  · funext other
    rw [data?, becomes.content?_eq, setContent, if_neg (FileName.dataFile_ne_lockFile _ _), data?]
  · funext other
    rw [temp?, becomes.content?_eq, setContent, if_neg (FileName.tempFile_ne_lockFile _ _), temp?]

theorem write_effect (stands : Stands f .sequences d) (id : InventoryId) (content : ByteArray) :
    ∃ d', d.write (f.tempPath .sequences id) content = .ok d' ∧ Stands f .sequences d' ∧
      data? f d' = data? f d ∧
      ∀ other, temp? f d' other = if Shares other id then some content else temp? f d other := by
  obtain ⟨d', written, becomes⟩ := Folder.write_becomes stands (FileName.tempFile id.text) content
  refine ⟨d', written, becomes.stands stands, ?_, fun other => ?_⟩
  · funext other
    rw [data?, becomes.content?_eq, setContent, if_neg (FileName.dataFile_ne_tempFile _ _), data?]
  · simp only [temp?, becomes.content?_eq, setContent, FileName.tempFile_inj, Shares]
    rfl

theorem publish_effect (stands : Stands f .sequences d) {content : ByteArray}
    (here : temp? f d id = some content) :
    ∃ d', f.publish .sequences id d = (.ok (), d') ∧ Stands f .sequences d' ∧
      (∀ other, data? f d' other = if Shares other id then some content else data? f d other) ∧
      ∀ other, temp? f d' other = if Shares other id then none else temp? f d other := by
  obtain ⟨d', renamed, becomes⟩ :=
    Folder.rename_becomes stands (FileName.dataFile id.text) here
  refine ⟨d', ?_, becomes.stands stands, fun other => ?_, fun other => ?_⟩
  · rw [Folder.publish, Folder.tempPath, Folder.dataPath, renamed]
  · simp only [data?, becomes.content?_eq, setContent, FileName.dataFile_inj, Shares,
      if_neg (FileName.dataFile_ne_tempFile other.text id.text)]
    rfl
  · simp only [temp?, becomes.content?_eq, setContent, FileName.tempFile_inj, Shares,
      if_neg (FileName.dataFile_ne_tempFile id.text other.text).symm]
    rfl

theorem publish_missing (stands : Stands f .sequences d) (missing : temp? f d id = none) :
    f.publish .sequences id d = (.error (Folder.io .notFound), d) := by
  rw [temp?] at missing
  have unread : d.read (f.tempPath .sequences id) = .error .notFound := by
    rw [Folder.tempPath, Folder.read_eq stands, missing]
  rw [Folder.publish, Disk.rename, unread]

/-- The document of an inventory is that of this counter, or missing. -/
structure Shows (f : Folder) (d : Disk) (id : InventoryId) (found : Option Counter) : Prop where
  bytes : data? f d id = found.map Counter.document
  regular : ∀ counter ∈ found, counter.Regular

theorem Shows.read {found : Option Counter} (stands : Stands f .sequences d)
    (shows : Shows f d id found) :
    d.read (f.dataPath .sequences id) =
      match found with
      | some counter => .ok counter.document
      | none => .error .notFound := by
  have bytes := shows.bytes
  rw [data?] at bytes
  rw [Folder.dataPath, Folder.read_eq stands, bytes]
  cases found <;> rfl

theorem Shows.load {found : Option Counter} (stands : Stands f .sequences d)
    (shows : Shows f d id found) : f.load Counter.decode .sequences id d = .ok found := by
  cases found with
  | none => exact Folder.load_missing stands Counter.decode shows.bytes
  | some counter =>
    exact Folder.load_written stands shows.bytes counter.document_nonempty
      (Counter.decodeBytes_document (shows.regular counter rfl).timed)

theorem Shows.unique {found found' : Option Counter} (stands : Stands f .sequences d)
    (shows : Shows f d id found) (shows' : Shows f d id found') : found = found' := by
  have same := shows.load stands
  rw [shows'.load stands] at same
  exact (Except.ok.inj same).symm

theorem Shows.of_data {found : Option Counter} (shows : Shows f d id found)
    (same : data? f d' other = data? f d id) : Shows f d' other found :=
  ⟨same.trans shows.bytes, shows.regular⟩

def earned? (answer? : Option (Except StoreError UInt64)) : Option UInt64 :=
  answer?.bind Except.toOption

/-- What can become of a process and of the disk in one step, and what is returned by it. -/
inductive Turn (f : Folder) (r : Request) (free : Bool) (d : Disk) :
    Stage → Stage → Disk → Option (Except StoreError UInt64) → Prop
  /-- nothing happens to the documents, and the process gets no further than it was -/
  | aside {stage stage' : Stage} {d' : Disk} {answer? : Option (Except StoreError UInt64)}
      (stands : Stands f .sequences d') (data : data? f d' = data? f d)
      (temp : temp? f d' = temp? f d)
      (holds : stage'.holds = true → stage.holds = true)
      (copy : stage' = stage ∨ stage'.copy? = none)
      (value : ((earned? answer?).toList ++ stage'.value?.toList).Sublist stage.value?.toList) :
      Turn f r free d stage stage' d' answer?
  | locked (lone : free = true) : Turn f r free d .waiting .reading d none
  | read {found : Option Counter} {value : UInt64} {counter : Counter}
      (shows : Shows f d r.id found)
      (advanced : (found.getD (.fresh r.id r.start r.now)).advance? r.now = some (value, counter)) :
      Turn f r free d .reading (.writing value counter) d none
  | scribbled {value : UInt64} {counter : Counter} {stage' : Stage} {d' : Disk}
      (stands : Stands f .sequences d') (data : data? f d' = data? f d)
      (temp : ∀ other, ¬ Shares other r.id → temp? f d' other = temp? f d other)
      (next : stage' = .writing value counter ∨ ∃ error, stage' = .releasing (.error error)) :
      Turn f r free d (.writing value counter) stage' d' none
  | wrote {value : UInt64} {counter : Counter} {d' : Disk}
      (stands : Stands f .sequences d') (data : data? f d' = data? f d)
      (temp : ∀ other, temp? f d' other =
        if Shares other r.id then some counter.document else temp? f d other) :
      Turn f r free d (.writing value counter) (.publishing value counter) d' none
  | published {value : UInt64} {counter : Counter} {content : ByteArray} {stage' : Stage} {d' : Disk}
      (stands : Stands f .sequences d') (here : temp? f d r.id = some content)
      (data : ∀ other, data? f d' other =
        if Shares other r.id then some content else data? f d other)
      (temp : ∀ other, ¬ Shares other r.id → temp? f d' other = temp? f d other)
      (next : stage' = .syncing value ∨ ∃ error, stage' = .releasing (.error error)) :
      Turn f r free d (.publishing value counter) stage' d' none

section

variable {free : Bool}

theorem turn_aside (stands : Stands f .sequences d) {stage stage' : Stage}
    {answer? : Option (Except StoreError UInt64)}
    (holds : stage'.holds = true → stage.holds = true)
    (copy : stage' = stage ∨ stage'.copy? = none)
    (value : ((earned? answer?).toList ++ stage'.value?.toList).Sublist stage.value?.toList) :
    Turn f r free d stage stage' d answer? :=
  .aside stands rfl rfl holds copy value

theorem step_turn (stands : Stands f .sequences d) (whole : ∃ found, Shows f d r.id found)
    (stage : Stage) :
    Turn f r free d stage (step f r free d stage).1 (step f r free d stage).2
      (State.answer? stage) := by
  cases stage with
  | opening =>
    obtain ⟨d', locked, stands', data, temp⟩ := lock_effect stands r.id
    simp only [step, locked]
    exact .aside stands' data temp (fun held => held) (.inr rfl) (.refl _)
  | waiting =>
    cases free with
    | true => exact .locked rfl
    | false => exact turn_aside stands (fun held => held) (.inl rfl) (.refl _)
  | reading =>
    obtain ⟨found, shows⟩ := whole
    simp only [step, shows.load stands]
    cases advanced : (found.getD (.fresh r.id r.start r.now)).advance r.now with
    | taken value counter => exact .read shows (Counter.advance?_of_taken advanced)
    | full | halted => exact turn_aside stands (fun held => held) (.inr rfl) (.refl _)
  | writing value counter =>
    obtain ⟨d', written, stands', data, temp⟩ := write_effect stands r.id counter.document
    have done : f.writeTemp .sequences r.id counter.encode d = (.ok (), d') := by
      rw [Folder.writeTemp, ← Counter.document, written]
    simp only [step, done]
    exact .wrote stands' data temp
  | publishing value counter =>
    cases here : temp? f d r.id with
    | none =>
      simp only [step, publish_missing stands here]
      exact turn_aside stands (fun _ => rfl) (.inr rfl) (.refl _)
    | some content =>
      obtain ⟨d', published, stands', data, temp⟩ := publish_effect stands here
      simp only [step, published]
      refine .published stands' here data (fun other apart => ?_) (.inl rfl)
      rw [temp, if_neg apart]
  | syncing value => exact turn_aside stands (fun held => held) (.inr rfl) (.refl _)
  | releasing answer =>
    apply turn_aside stands (fun _ => rfl) (.inr rfl)
    cases answer <;> exact .refl _
  | returning answer =>
    refine turn_aside stands (fun held => held) (.inr rfl) ?_
    cases answer <;> exact .refl _
  | ended => exact turn_aside stands (fun held => held) (.inl rfl) (.refl _)
  | crashed => exact turn_aside stands (fun held => held) (.inl rfl) (.refl _)

theorem holds_of_copy? {stage : Stage} {value : UInt64} {counter : Counter}
    (copied : stage.copy? = some (value, counter)) : stage.holds = true := by
  cases stage <;> first | rfl | cases copied

theorem holds_of_failed {stage : Stage} {error : StoreError}
    (held : (stage.failed error).holds = true) : stage.holds = true := by
  cases stage <;> first | rfl | exact held

theorem copy?_failed (stage : Stage) (error : StoreError) :
    stage.failed error = stage ∨ (stage.failed error).copy? = none := by
  cases stage <;> first | exact .inl rfl | exact .inr rfl

theorem value?_failed (stage : Stage) (error : StoreError) :
    (stage.failed error).value?.toList.Sublist stage.value?.toList := by
  cases stage with
  | releasing answer => cases answer <;> exact .refl _
  | syncing value => exact List.nil_sublist _
  | opening | waiting | reading | writing | publishing | returning | ended | crashed =>
    exact .refl _

/-- A step that fails leaves the process without what it was about to gain. -/
theorem fail_turn (stands : Stands f .sequences d) (stage : Stage) (error : StoreError) :
    Turn f r free d stage (stage.failed error) d none :=
  turn_aside stands holds_of_failed (copy?_failed stage error) (value?_failed stage error)

/-- So does one that has taken effect by then. -/
theorem fail_late_turn (stands : Stands f .sequences d) (whole : ∃ found, Shows f d r.id found)
    (stage : Stage) (error : StoreError) :
    Turn f r free d stage (stage.failed error) (step f r free d stage).2 none := by
  have turn : Turn f r free d stage (step f r free d stage).1 (step f r free d stage).2
    (State.answer? stage) := step_turn stands whole stage
  generalize (step f r free d stage).1 = stage', (step f r free d stage).2 = d',
    State.answer? stage = answer? at turn
  cases turn with
  | aside stands' data temp =>
    exact .aside stands' data temp holds_of_failed (copy?_failed stage error)
      (value?_failed stage error)
  | locked | read => exact fail_turn stands _ error
  | scribbled stands' data temp => exact .scribbled stands' data temp (.inr ⟨error, rfl⟩)
  | wrote stands' data temp =>
    refine .scribbled stands' data (fun other apart => ?_) (.inr ⟨error, rfl⟩)
    rw [temp, if_neg apart]
  | published stands' here data temp =>
    exact .published stands' here data temp (.inr ⟨error, rfl⟩)

end

namespace Turn

variable {r : Request} {free : Bool} {stage stage' : Stage}
  {answer? : Option (Except StoreError UInt64)}

theorem stands (turn : Turn f r free d stage stage' d' answer?) (before : Stands f .sequences d) :
    Stands f .sequences d' := by
  cases turn with
  | aside stands | scribbled stands | wrote stands | published stands => exact stands
  | locked | read => exact before

theorem holds (turn : Turn f r free d stage stage' d' answer?) (held : stage'.holds = true) :
    stage.holds = true ∨ free = true := by
  cases turn with
  | aside _ _ _ holds => exact .inl (holds held)
  | locked lone => exact .inr lone
  | read | scribbled | wrote | published => exact .inl rfl

/-- Only the document of the inventory itself is ever replaced, and only by the temporary file. -/
theorem data (turn : Turn f r free d stage stage' d' answer?) :
    data? f d' = data? f d ∨ ∃ value counter content, stage = .publishing value counter ∧
      temp? f d r.id = some content ∧
      ∀ other, data? f d' other = if Shares other r.id then some content else data? f d other := by
  cases turn with
  | aside _ data | scribbled _ data | wrote _ data => exact .inl data
  | locked | read => exact .inl rfl
  | published _ here data => exact .inr ⟨_, _, _, rfl, here, data⟩

/-- Only the holder of the lock touches the temporary file. -/
theorem temp (turn : Turn f r free d stage stage' d' answer?) {other : InventoryId}
    (apart : Shares other r.id → stage.holds = false) : temp? f d' other = temp? f d other := by
  have loose (held : stage.holds = true) : ¬ Shares other r.id := by
    intro shares
    rw [apart shares] at held
    exact Bool.noConfusion held
  cases turn with
  | aside _ _ temp => rw [temp]
  | locked | read => rfl
  | scribbled _ _ temp | published _ _ _ temp => exact temp other (loose rfl)
  | wrote _ _ temp => rw [temp, if_neg (loose rfl)]

/-- A value comes to be carried when its document has been put in place, and at no other time. -/
theorem value (turn : Turn f r free d stage stage' d' answer?) :
    ((earned? answer?).toList ++ stage'.value?.toList).Sublist stage.value?.toList ∨
      ∃ value counter content, stage = .publishing value counter ∧
        (earned? answer?).toList ++ stage'.value?.toList = [value] ∧
        temp? f d r.id = some content ∧ data? f d' r.id = some content := by
  cases turn with
  | aside _ _ _ _ _ value => exact .inl value
  | locked | read | wrote => exact .inl (.refl _)
  | scribbled _ _ _ next =>
    left
    rcases next with rfl | ⟨error, rfl⟩ <;> exact .refl _
  | published _ here data _ next =>
    rcases next with rfl | ⟨error, rfl⟩
    · right
      refine ⟨_, _, _, rfl, rfl, here, ?_⟩
      rw [data, if_pos (Shares.refl _)]
    · exact .inl (.refl _)

/-- A private copy is made from the document that is read and stays as it is until it is
published. -/
theorem copy (turn : Turn f r free d stage stage' d' answer?) {value : UInt64} {counter : Counter}
    (copied : stage'.copy? = some (value, counter)) :
    stage.copy? = some (value, counter) ∧ data? f d' = data? f d ∨
      d' = d ∧ ∃ found, Shows f d r.id found ∧
        (found.getD (.fresh r.id r.start r.now)).advance? r.now = some (value, counter) := by
  cases turn with
  | aside _ data _ _ copy =>
    rcases copy with rfl | none
    · exact .inl ⟨copied, data⟩
    · rw [none] at copied
      cases copied
  | locked => cases copied
  | read shows advanced =>
    cases copied
    exact .inr ⟨rfl, _, shows, advanced⟩
  | scribbled _ data _ next =>
    rcases next with rfl | ⟨error, rfl⟩
    · exact .inl ⟨copied, data⟩
    · cases copied
  | wrote _ data => exact .inl ⟨copied, data⟩
  | published _ _ _ _ next => rcases next with rfl | ⟨error, rfl⟩ <;> cases copied

/-- A process that is about to publish has just written its copy, or it was about to before. -/
theorem draft {value : UInt64} {counter : Counter}
    (turn : Turn f r free d stage (.publishing value counter) d' answer?) :
    stage = .publishing value counter ∧ temp? f d' = temp? f d ∨
      temp? f d' r.id = some counter.document := by
  generalize after : Stage.publishing value counter = stage' at turn
  cases turn with
  | aside _ _ temp _ copy =>
    rcases copy with same | none
    · exact .inl ⟨same.symm, temp⟩
    · rw [← after] at none
      cases none
  | locked | read => cases after
  | scribbled _ _ _ next => rcases next with rfl | ⟨error, rfl⟩ <;> cases after
  | wrote _ _ temp =>
    cases after
    right
    rw [temp, if_pos (Shares.refl _)]
  | published _ _ _ _ next => rcases next with rfl | ⟨error, rfl⟩ <;> cases after

end Turn

def State.turned (s : State) (i : Nat) (p : Process) (stage : Stage) (disk : Disk)
    (answer? : Option (Except StoreError UInt64)) : State :=
  { disk, processes := s.processes.set i { p with stage },
    returned := s.returned ++ (answer?.map fun answer => (p.request.id, answer)).toList }

theorem getElem?_turned {i j : Nat} {p q : Process} {stage : Stage} {disk : Disk}
    {answer? : Option (Except StoreError UInt64)}
    (there : (s.turned i p stage disk answer?).processes[j]? = some q) :
    j = i ∧ q = { p with stage } ∨ j ≠ i ∧ s.processes[j]? = some q := by
  rw [State.turned, List.getElem?_set] at there
  split at there
  · next eq =>
    split at there
    · exact .inl ⟨eq.symm, (Option.some.inj there).symm⟩
    · cases there
  · next ne => exact .inr ⟨Ne.symm ne, there⟩

theorem move_scribble (stands : Stands f .sequences s.disk) {i : Nat} {p : Process}
    (here : s.processes[i]? = some p) (content : ByteArray) :
    s.move f (.scribble i content) = s ∨ ∃ stage disk,
      Turn f p.request (s.isFree f p.request.id) s.disk p.stage stage disk none ∧
        s.move f (.scribble i content) = s.turned i p stage disk none := by
  rcases p with ⟨request, stage⟩
  cases stage with
  | writing value counter =>
    obtain ⟨disk, written, stands', data, temp⟩ := write_effect stands request.id content
    right
    refine ⟨.writing value counter, disk, .scribbled stands' data ?_ (.inl rfl), ?_⟩
    · intro other apart
      rw [temp, if_neg apart]
    · have same : s.processes.set i ⟨request, .writing value counter⟩ = s.processes := by
        obtain ⟨bound, eq⟩ := List.getElem?_eq_some_iff.mp here
        rw [← eq, List.set_getElem_self]
      simp only [State.move, here, written, State.turned, same]
      simp
  | opening | waiting | reading | publishing | syncing | releasing | returning | ended | crashed =>
    left
    simp only [State.move, here]

/-- Every move lets somebody arrive, changes nothing, or is a turn of one process. -/
theorem move_cases (stands : Stands f .sequences s.disk)
    (whole : ∀ id, ∃ found, Shows f s.disk id found) (m : Move) :
    (∃ r, m = .arrive r) ∨ s.move f m = s ∨
      ∃ i p stage disk answer?, s.processes[i]? = some p ∧
        Turn f p.request (s.isFree f p.request.id) s.disk p.stage stage disk answer? ∧
        s.move f m = s.turned i p stage disk answer? := by
  have none_eq (i : Nat) (p : Process) (stage : Stage) (disk : Disk) :
      s.put i p stage disk = s.turned i p stage disk none := by
    simp [State.put, State.turned]
  cases m with
  | arrive r => exact .inl ⟨r, rfl⟩
  | go i =>
    right
    cases here : s.processes[i]? with
    | none => exact .inl (by simp only [State.move, here])
    | some p =>
      right
      refine ⟨i, p, _, _, _, here, step_turn stands (whole _) p.stage, ?_⟩
      simp only [State.move, here]
      rfl
  | fail i late error =>
    right
    cases here : s.processes[i]? with
    | none => exact .inl (by simp only [State.move, here])
    | some p =>
      right
      cases late with
      | false =>
        refine ⟨i, p, _, _, _, here, fail_turn stands p.stage error, ?_⟩
        simp only [State.move, here, ← none_eq]
        rfl
      | true =>
        refine ⟨i, p, _, _, _, here, fail_late_turn stands (whole _) p.stage error, ?_⟩
        simp only [State.move, here, ← none_eq]
        rfl
  | scribble i content =>
    right
    cases here : s.processes[i]? with
    | none => exact .inl (by simp only [State.move, here])
    | some p =>
      rcases move_scribble stands here content with unchanged | ⟨stage, disk, turn, moved⟩
      · exact .inl unchanged
      · exact .inr ⟨i, p, stage, disk, none, here, turn, moved⟩
  | crash i =>
    right
    cases here : s.processes[i]? with
    | none => exact .inl (by simp only [State.move, here])
    | some p =>
      right
      refine ⟨i, p, .crashed, s.disk, none, here, ?_, ?_⟩
      · apply turn_aside stands (by simp [Stage.holds]) (.inr rfl)
        apply List.nil_sublist
      · simp only [State.move, here, ← none_eq]

end Mintmark.Store.Processes
