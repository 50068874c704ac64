import Mintmark.Store.Folder

/-!
# Drawers

A drawer is a folder of a store that holds nothing but files. As long as the way to it stands, what
the disk does to a file of the drawer can be said by the contents of the drawer alone: which names
have which bytes.
-/

namespace Mintmark.Store

namespace Disk

theorem node?_of_ne_nil {path : Path} (named : path ≠ []) (d : Disk) :
    d.node? path = d.nodes.find? path := by
  rw [node?, if_neg named]

theorem length_of_mem_ancestors {path a : Path} (member : a ∈ ancestors path) :
    a.length < path.length := by
  obtain ⟨k, inside, rfl⟩ := List.mem_map.mp member
  rw [List.mem_range] at inside
  rw [List.length_take]
  omega

theorem ancestors_concat (path : Path) (name : String) :
    ancestors (path ++ [name]) = ancestors path ++ [path] := by
  rw [ancestors, List.length_append, List.length_singleton, List.range_succ, List.map_append,
    List.map_singleton, List.take_left]
  congr 1
  apply List.map_congr_left
  intro k inside
  rw [List.mem_range] at inside
  exact List.take_append_of_le_length (Nat.le_of_lt inside)

theorem obstacle?_eq_none_iff (d : Disk) (path : Path) :
    d.obstacle? path = none ↔ ∀ a ∈ ancestors path, d.node? a = some .folder := by
  rw [obstacle?, List.findSome?_eq_none_iff]
  apply forall_congr'
  intro a
  apply imp_congr_right
  intro _
  rcases d.node? a with _ | _ | _ <;> simp

/-- The folders at some paths have been made, unless they were there, and nothing else. -/
structure Makes (d d' : Disk) (paths : List Path) : Prop where
  made : ∀ a ∈ paths, d'.node? a = some .folder
  others : ∀ a ∉ paths, d'.node? a = d.node? a
  stay : ∀ a, d.node? a = some .folder → d'.node? a = some .folder

theorem Makes.append {d d' d'' : Disk} {paths more : List Path} (first : Makes d d' paths)
    (second : Makes d' d'' more) : Makes d d'' (paths ++ more) := by
  constructor
  · intro a member
    rcases List.mem_append.mp member with old | new
    · exact second.stay a (first.made a old)
    · exact second.made a new
  · intro a apart
    rw [List.mem_append, not_or] at apart
    rw [second.others a apart.2, first.others a apart.1]
  · intro a there
    exact second.stay a (first.stay a there)

theorem makes_put (d : Disk) (a : Path) : Makes d (d.put a .folder) [a] := by
  have node (other : Path) :
      (d.put a .folder).node? other = if other = a then some .folder else d.node? other := by
    rw [node?, node?, put, Table.find?_insert]
    by_cases root : other = []
    · simp [root]
    · simp [root]
  constructor
  · intro other member
    rw [List.mem_singleton] at member
    rw [node, if_pos member]
  · intro other apart
    rw [List.mem_singleton] at apart
    rw [node, if_neg apart]
  · intro other there
    by_cases same : other = a
    · rw [node, if_pos same]
    · rw [node, if_neg same, there]

theorem makeFolders_makes {d d' : Disk} {path : Path} (done : d.makeFolders path = .ok d') :
    Makes d d' (ancestors path ++ [path]) := by
  rw [makeFolders] at done
  generalize ancestors path ++ [path] = paths at done ⊢
  induction paths generalizing d with
  | nil =>
    cases done
    exact ⟨by simp, fun _ _ => rfl, fun _ there => there⟩
  | cons a paths ih =>
    rw [List.foldlM_cons] at done
    rcases node : d.node? a with _ | _ | _
    · simp only [node] at done
      exact (makes_put d a).append (ih done)
    · simp only [node] at done
      cases done
    · simp only [node] at done
      have here : Makes d d [a] := by
        constructor
        · intro other member
          rw [List.mem_singleton.mp member, node]
        · intro other _
          rfl
        · intro other there
          exact there
      exact here.append (ih done)

end Disk

namespace Folder

variable {f : Folder} {drawer : Drawer} {d : Disk} {file other : String}

theorem path_ne_nil (f : Folder) (drawer : Drawer) (file : String) : f.path drawer file ≠ [] := by
  simp [path]

theorem path_inj : f.path drawer file = f.path drawer other ↔ file = other := by
  simp [path]

theorem length_path (f : Folder) (drawer : Drawer) (file : String) :
    (f.path drawer file).length = f.base.length + 2 := by
  simp [path]

/-- A folder on the way to a file is nearer to the root than any file of a drawer. -/
theorem path_not_mem_ancestors (f : Folder) (drawer drawer' : Drawer) (file other : String) :
    f.path drawer file ∉ Disk.ancestors (f.path drawer' other) := by
  intro member
  have shorter := Disk.length_of_mem_ancestors member
  rw [length_path, length_path] at shorter
  exact Nat.lt_irrefl _ shorter

theorem ancestors_path (f : Folder) (drawer : Drawer) (file : String) :
    Disk.ancestors (f.path drawer file) =
      Disk.ancestors (f.base ++ [drawer.name]) ++ [f.base ++ [drawer.name]] := by
  rw [path, ← Disk.ancestors_concat, List.append_assoc, List.singleton_append]

/-- The way to the drawer stands, and there is nothing but files in it. -/
structure Stands (f : Folder) (drawer : Drawer) (d : Disk) : Prop where
  folders : ∀ a ∈ Disk.ancestors (f.path drawer ""), d.node? a = some .folder
  files : ∀ file, d.node? (f.path drawer file) ≠ some .folder

/-- The drawer is there and there is nothing in it. -/
structure Vacant (f : Folder) (drawer : Drawer) (d : Disk) : Prop where
  folders : ∀ a ∈ Disk.ancestors (f.path drawer ""), d.node? a = some .folder
  nothing : ∀ file, d.node? (f.path drawer file) = none

theorem Vacant.stands (vacant : Vacant f drawer d) : Stands f drawer d := by
  constructor
  · exact vacant.folders
  · intro file
    rw [vacant.nothing file]
    exact Option.some_ne_none _ |>.symm

theorem prepare_makes {d' : Disk} (prepared : f.prepare d = (.ok (), d')) :
    Disk.Makes d d' ((Disk.ancestors f.base ++ [f.base]) ++
      (Disk.ancestors (f.path .sequences "") ++ Disk.ancestors (f.path .configs ""))) := by
  simp only [prepare, List.foldl_cons, List.foldl_nil] at prepared
  rcases base : d.makeFolders f.base with _ | d₁
  · simp [base] at prepared
  · rcases sequences : d₁.makeFolders (f.base ++ ["sequences"]) with _ | d₂
    · simp [base, sequences] at prepared
    · rcases configs : d₂.makeFolders (f.base ++ ["configs"]) with _ | d₃
      · simp [base, sequences, configs] at prepared
      · simp only [base, sequences, configs, Prod.mk.injEq, true_and] at prepared
        subst prepared
        rw [ancestors_path, ancestors_path]
        apply (Disk.makeFolders_makes base).append
        exact (Disk.makeFolders_makes sequences).append (Disk.makeFolders_makes configs)

theorem ancestors_base_subset (f : Folder) (drawer : Drawer) :
    Disk.ancestors f.base ++ [f.base] ⊆ Disk.ancestors (f.path drawer "") := by
  rw [ancestors_path, Disk.ancestors_concat]
  apply List.subset_append_left

/-- Making the folders of the store does nothing to the files in its drawers. -/
theorem node?_of_prepare {d' : Disk} (prepared : f.prepare d = (.ok (), d')) (drawer : Drawer)
    (file : String) : d'.node? (f.path drawer file) = d.node? (f.path drawer file) := by
  have deep (other : Drawer) := path_not_mem_ancestors f drawer other file ""
  apply (prepare_makes prepared).others
  intro member
  rcases List.mem_append.mp member with base | drawers
  · exact deep drawer (ancestors_base_subset f drawer base)
  · rcases List.mem_append.mp drawers with sequences | configs
    · exact deep .sequences sequences
    · exact deep .configs configs

/-- Making the folders of the store leaves its drawers vacant if nothing was in them. -/
theorem vacant_of_prepare {d' : Disk} (prepared : f.prepare d = (.ok (), d'))
    (nothing : ∀ file, d.node? (f.path drawer file) = none) : Vacant f drawer d' := by
  constructor
  · intro a member
    apply (prepare_makes prepared).made
    apply List.mem_append_right
    cases drawer with
    | sequences => exact List.mem_append_left _ member
    | configs => exact List.mem_append_right _ member
  · intro file
    rw [node?_of_prepare prepared, nothing]

theorem vacant_of_prepare_empty {d' : Disk} (prepared : f.prepare .empty = (.ok (), d')) :
    Vacant f drawer d' := by
  apply vacant_of_prepare prepared
  intro file
  rw [Disk.node?_of_ne_nil (path_ne_nil f drawer file)]
  rfl

def content? (f : Folder) (drawer : Drawer) (d : Disk) (file : String) : Option ByteArray :=
  match d.node? (f.path drawer file) with
  | some (.file content) => some content
  | _ => none

theorem lookup_eq (stands : Stands f drawer d) (file : String) :
    d.lookup (f.path drawer file) = .ok ((content? f drawer d file).map .file) := by
  have clear : d.obstacle? (f.path drawer file) = none := by
    -- the way to a file is the way to all files of its drawer
    rw [Disk.obstacle?_eq_none_iff, ancestors_path, ← ancestors_path f drawer ""]
    exact stands.folders
  have files := stands.files file
  rw [Disk.lookup, clear, content?]
  rcases node : d.node? (f.path drawer file) with _ | content | _
  · rfl
  · rfl
  · exact absurd node files

theorem read_eq (stands : Stands f drawer d) (file : String) :
    d.read (f.path drawer file) =
      match content? f drawer d file with
      | some content => .ok content
      | none => .error .notFound := by
  rw [Disk.read, lookup_eq stands]
  cases content? f drawer d file <;> rfl

theorem load_missing (stands : Stands f drawer d) {α : Type} (decode : Json.Decoder α)
    {id : InventoryId} (missing : content? f drawer d (FileName.dataFile id.text) = none) :
    f.load decode drawer id d = .ok none := by
  rw [load, dataPath, read_eq stands, missing]

theorem load_written (stands : Stands f drawer d) {α : Type} {decode : Json.Decoder α} {a : α}
    {id : InventoryId} {content : ByteArray}
    (here : content? f drawer d (FileName.dataFile id.text) = some content)
    (nonempty : content.isEmpty = false) (decoded : decodeBytes decode content = .ok a) :
    f.load decode drawer id d = .ok (some a) := by
  rw [load, dataPath, read_eq stands, here]
  simp only [nonempty, decoded]
  rfl

/-- The drawer has come to have these contents, and nothing else on the disk has changed. -/
structure Becomes (f : Folder) (drawer : Drawer) (d d' : Disk)
    (contents : String → Option ByteArray) : Prop where
  inside : ∀ file, d'.node? (f.path drawer file) = (contents file).map .file
  outside : ∀ path, (∀ file, path ≠ f.path drawer file) → d'.node? path = d.node? path

theorem Becomes.content?_eq {d' : Disk} {contents : String → Option ByteArray}
    (becomes : Becomes f drawer d d' contents) : content? f drawer d' = contents := by
  funext file
  rw [content?, becomes.inside file]
  cases contents file <;> rfl

theorem Becomes.stands {d' : Disk} {contents : String → Option ByteArray}
    (becomes : Becomes f drawer d d' contents) (stands : Stands f drawer d) :
    Stands f drawer d' := by
  refine ⟨fun a member => ?_, fun file => ?_⟩
  · rw [becomes.outside]
    · exact stands.folders a member
    · rintro file rfl
      exact path_not_mem_ancestors f drawer drawer file "" member
  · rw [becomes.inside file]
    cases contents file <;> simp

def setContent (contents : String → Option ByteArray) (file : String)
    (content : Option ByteArray) : String → Option ByteArray :=
  fun other => if other = file then content else contents other

theorem node?_path (stands : Stands f drawer d) (file : String) :
    d.nodes.find? (f.path drawer file) = (content? f drawer d file).map .file := by
  have files := stands.files file
  simp only [content?, Disk.node?, if_neg (path_ne_nil f drawer file)] at files ⊢
  rcases node : d.nodes.find? (f.path drawer file) with _ | content | _
  · rfl
  · rfl
  · exact absurd node files

theorem becomes_put (stands : Stands f drawer d) (file : String) (content : ByteArray) :
    Becomes f drawer d (d.put (f.path drawer file) (.file content))
      (setContent (content? f drawer d) file (some content)) := by
  refine ⟨fun other => ?_, fun path apart => ?_⟩
  · simp only [Disk.node?, if_neg (path_ne_nil f drawer other), Disk.put, Table.find?_insert,
      path_inj, node?_path stands, setContent]
    split <;> rfl
  · simp only [Disk.node?, Disk.put, Table.find?_insert, if_neg (apart file)]

theorem becomes_self (stands : Stands f drawer d) :
    Becomes f drawer d d (content? f drawer d) := by
  refine ⟨fun file => ?_, fun path _ => rfl⟩
  simp only [Disk.node?, if_neg (path_ne_nil f drawer file), node?_path stands]

theorem touch_becomes (stands : Stands f drawer d) (file : String) :
    ∃ d', d.touch (f.path drawer file) = .ok d' ∧
      Becomes f drawer d d'
        (setContent (content? f drawer d) file ((content? f drawer d file).getD .empty)) := by
  rw [Disk.touch, lookup_eq stands]
  cases here : content? f drawer d file with
  | none => exact ⟨_, rfl, becomes_put stands file .empty⟩
  | some content =>
    refine ⟨d, rfl, ?_⟩
    have same : setContent (content? f drawer d) file (some content) = content? f drawer d := by
      funext other
      rw [setContent]
      split
      · next eq => rw [eq, here]
      · rfl
    rw [Option.getD_some, same]
    exact becomes_self stands

theorem write_becomes (stands : Stands f drawer d) (file : String) (content : ByteArray) :
    ∃ d', d.write (f.path drawer file) content = .ok d' ∧
      Becomes f drawer d d' (setContent (content? f drawer d) file (some content)) := by
  rw [Disk.write, lookup_eq stands]
  cases content? f drawer d file <;> exact ⟨_, rfl, becomes_put stands file content⟩

/-- A file that is there takes the name of another, which loses what it had. -/
theorem rename_becomes (stands : Stands f drawer d) {source : String} (target : String)
    {content : ByteArray} (here : content? f drawer d source = some content) :
    ∃ d', d.rename (f.path drawer source) (f.path drawer target) = .ok d' ∧
      Becomes f drawer d d'
        (setContent (setContent (content? f drawer d) source none) target (some content)) := by
  have moved : d.rename (f.path drawer source) (f.path drawer target) =
      .ok { d with
        nodes :=
          (d.nodes.erase (f.path drawer source)).insert (f.path drawer target) (.file content) } := by
    have found := read_eq stands source
    rw [here] at found
    rw [Disk.rename, found, lookup_eq stands]
    cases content? f drawer d target <;> rfl
  refine ⟨_, moved, fun other => ?_, fun path apart => ?_⟩
  · simp only [Disk.node?, if_neg (path_ne_nil f drawer other), Table.find?_insert,
      Table.find?_erase, path_inj, node?_path stands, setContent]
    split
    · rfl
    · split <;> rfl
  · simp only [Disk.node?, Table.find?_insert, Table.find?_erase, if_neg (apart source),
      if_neg (apart target)]

theorem remove_becomes (stands : Stands f drawer d) {content : ByteArray}
    (here : content? f drawer d file = some content) :
    ∃ d', d.remove (f.path drawer file) = .ok d' ∧
      Becomes f drawer d d' (setContent (content? f drawer d) file none) := by
  rw [Disk.remove, lookup_eq stands, here]
  refine ⟨_, rfl, fun other => ?_, fun path apart => ?_⟩
  · simp only [Disk.node?, if_neg (path_ne_nil f drawer other), Table.find?_erase, path_inj,
      node?_path stands, setContent]
    split <;> rfl
  · simp only [Disk.node?, Table.find?_erase, if_neg (apart file)]

end Folder
end Mintmark.Store
