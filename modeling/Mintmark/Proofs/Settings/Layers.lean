import Mintmark.Settings.KeyPath
import Mintmark.Table

/-!
# Layers of settings

What stands at the end of some names once an entry has been laid over the settings: the entry
itself if its path is these names, and what stood there before if its path parts from them. Where a
path goes to a place in a list it parts from no names, for it turns what it finds into a list.
-/

namespace Mintmark.Settings

/-- The path goes to another entry than the names do, in a table that both lead to. -/
inductive Step.Apart : List Step → List String → Prop
  | here {name other : String} {steps : List Step} {names : List String} (differ : other ≠ name) :
    Apart (.key name :: steps) (other :: names)
  | beyond {name : String} {steps : List Step} {names : List String} (apart : Apart steps names) :
    Apart (.key name :: steps) (name :: names)

namespace Loose

/-- What stands at the end of some names. -/
def at? : List String → Loose → Option Loose
  | [], value => some value
  | name :: names, table entries => (entries.lookup name).bind (at? names)
  | _ :: _, _ => none

theorem lookup_map_replaced (entries : List (String × Loose)) (name other : String)
    (value : Loose) :
    (entries.map fun e => if e.1 = name then (name, value) else e).lookup other =
      if other = name then (entries.lookup name).map fun _ => value else entries.lookup other := by
  induction entries with
  | nil => simp
  | cons e entries ih =>
    obtain ⟨key, old⟩ := e
    rw [List.map_cons, Table.lookup_cons_eq, Table.lookup_cons_eq]
    by_cases here : key = name
    · rw [if_pos here, Table.lookup_cons_eq, ih, if_pos here.symm, here]
      by_cases same : other = name
      · rw [if_pos same, if_pos same]
        rfl
      · rw [if_neg same, if_neg same, if_neg same, if_neg same]
    · rw [if_neg here, Table.lookup_cons_eq, ih, if_neg (Ne.symm here)]
      by_cases same : other = name
      · rw [if_neg (by rwa [same, eq_comm]), if_pos same, if_pos same]
      · rw [if_neg same, if_neg same]

/-- What is put under one name is found there, and all other names lead where they led. -/
theorem at?_put (name other : String) (names : List String) (value below : Loose) :
    (put name value below).at? (other :: names) =
      if other = name then value.at? names else below.at? (other :: names) := by
  cases below with
  | table entries =>
    rw [put]
    by_cases there : (entries.lookup name).isSome
    · rw [if_pos there, at?, at?, lookup_map_replaced]
      by_cases same : other = name
      · obtain ⟨old, found⟩ := Option.isSome_iff_exists.mp there
        rw [if_pos same, if_pos same, found]
        rfl
      · rw [if_neg same, if_neg same]
    · have missing : entries.lookup name = none := Option.not_isSome_iff_eq_none.mp there
      rw [if_neg there, at?, at?, List.lookup_append, Table.lookup_cons_eq]
      by_cases same : other = name
      · rw [if_pos same, if_pos same, same, missing]
        rfl
      · rw [if_neg same, if_neg same, List.lookup_nil, Option.or_none]
  | null | flag | whole | real | text | list =>
    change (table [(name, value)]).at? (other :: names) = _
    rw [at?, Table.lookup_cons_eq]
    by_cases same : other = name
    · rw [if_pos same, if_pos same]
      rfl
    · rw [if_neg same, if_neg same]
      rfl

/-- Further names lead from an entry to where they lead from the whole. -/
theorem at?_entry (name other : String) (names : List String) (below : Loose) :
    (below.entry name).at? (other :: names) = below.at? (name :: other :: names) := by
  cases below with
  | table entries =>
    rw [entry, at?]
    cases entries.lookup name <;> rfl
  | null | flag | whole | real | text | list => rfl

/-- An entry whose path parts from some names changes nothing at their end. -/
theorem at?_layAt_of_apart {steps : List Step} {names : List String}
    (apart : Step.Apart steps names) (value below : Loose) :
    (layAt steps value below).at? names = below.at? names := by
  induction apart generalizing below with
  | here differ => rw [layAt, at?_put, if_neg differ]
  | @beyond name steps names apart ih =>
    rw [layAt, at?_put, if_pos rfl, ih]
    -- paths that part do so at a name
    cases apart <;> exact at?_entry ..

/-- An entry that is no table stands at the end of its path. -/
theorem at?_layAt {value : Loose} (single : ∀ below, layOver value below = value)
    (names : List String) (below : Loose) :
    (layAt (names.map .key) value below).at? names = some value := by
  induction names generalizing below with
  | nil => exact congrArg some (single below)
  | cons name names ih =>
    rw [List.map_cons, layAt, at?_put, if_pos rfl]
    exact ih _

theorem layAll_cons (key : String) (value : Loose) (entries : List (String × Loose))
    (below : Loose) :
    layAll ((key, value) :: entries) below = layAll entries (layAt (keyPath key) value below) := rfl

theorem layAll_append (entries others : List (String × Loose)) (below : Loose) :
    layAll (entries ++ others) below = layAll others (layAll entries below) :=
  List.foldl_append

theorem at?_layAll_of_apart {names : List String} {entries : List (String × Loose)}
    (apart : ∀ entry ∈ entries, Step.Apart (keyPath entry.1) names) (below : Loose) :
    (layAll entries below).at? names = below.at? names := by
  induction entries generalizing below with
  | nil => rfl
  | cons entry entries ih =>
    obtain ⟨own, others⟩ := List.forall_mem_cons.mp apart
    rw [layAll_cons, ih others, at?_layAt_of_apart own]

/-- Of the entries that do not part from some names the last one decides, if it leads there. -/
theorem at?_layAll {value : Loose} (single : ∀ below, layOver value below = value) {key : String}
    {names : List String} (leads : keyPath key = names.map .key)
    (before : List (String × Loose)) {after : List (String × Loose)}
    (apart : ∀ entry ∈ after, Step.Apart (keyPath entry.1) names) (below : Loose) :
    (layAll (before ++ (key, value) :: after) below).at? names = some value := by
  rw [layAll_append, layAll_cons, at?_layAll_of_apart apart, leads]
  exact at?_layAt single names _

end Loose
end Mintmark.Settings
