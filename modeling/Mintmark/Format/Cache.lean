import Mintmark.Format.Rule

/-!
# The rule cache

Compiled rules are kept by kind and specifier. The cache only grows, up to a fixed number of
entries; beyond that a rule is compiled again each time. Kinds that ignore their specifier share one
entry each, and nothing is kept of a specifier that does not compile.

Every entry is what compiling its key gives, so an answer from the cache is the answer of
`Rule.compile`.
-/

namespace Mintmark.Format

structure RuleKey where
  kind : Kind
  specifier : String
deriving DecidableEq, Repr

namespace RuleKey

/-- The key a rule is kept under. -/
def of (kind : Kind) (specifier : String) : RuleKey :=
  ⟨kind, if kind.ignoresFormat then "" else specifier⟩

def compile (key : RuleKey) : Except Problem Rule := Rule.compile key.kind key.specifier

theorem compile_of (kind : Kind) (specifier : String) :
    (of kind specifier).compile = Rule.compile kind specifier := by
  unfold of compile
  by_cases h : kind.ignoresFormat = true
  · simp [h, Rule.compile_of_ignoresFormat h]
  · simp [h]

end RuleKey

structure RuleCache where
  entries : List (RuleKey × Rule) := []
  sound : ∀ e ∈ entries, e.1.compile = .ok e.2 := by simp

namespace RuleCache

def capacity : Nat := 4096

def empty : RuleCache := {}

def size (cache : RuleCache) : Nat := cache.entries.length

def isEmpty (cache : RuleCache) : Bool := cache.entries.isEmpty

def find? (cache : RuleCache) (key : RuleKey) : Option Rule := cache.entries.lookup key

theorem mem_of_lookup {entries : List (RuleKey × Rule)} {key : RuleKey} {rule : Rule}
    (h : entries.lookup key = some rule) : (key, rule) ∈ entries := by
  induction entries with
  | nil => simp at h
  | cons e es ih =>
    obtain ⟨k, r⟩ := e
    simp only [List.lookup_cons] at h
    split at h
    · next eq => simp_all
    · exact List.mem_cons_of_mem _ (ih h)

theorem compile_of_find? {cache : RuleCache} {key : RuleKey} {rule : Rule}
    (h : cache.find? key = some rule) : key.compile = .ok rule :=
  cache.sound _ (mem_of_lookup h)

/-- Keeps a rule if there is room and its key is new. -/
def insert (cache : RuleCache) (key : RuleKey) (rule : Rule) (sound : key.compile = .ok rule) :
    RuleCache :=
  if cache.size < capacity ∧ cache.find? key = none then
    { entries := (key, rule) :: cache.entries
      sound := by
        intro e mem
        rcases List.mem_cons.mp mem with rfl | mem
        · exact sound
        · exact cache.sound e mem }
  else cache

/-- Compiles the rule of a key and keeps it. -/
def compileInto (cache : RuleCache) (key : RuleKey) : Except Problem Rule × RuleCache :=
  match compiled : key.compile with
  | .ok rule => (.ok rule, cache.insert key rule compiled)
  | .error problem => (.error problem, cache)

theorem compileInto_fst (cache : RuleCache) (key : RuleKey) :
    (cache.compileInto key).1 = key.compile := by
  unfold compileInto
  split <;> next compiled => exact compiled.symm

/-- Looks the rule up, or compiles and keeps it. -/
def rule (cache : RuleCache) (kind : Kind) (specifier : String) :
    Except Problem Rule × RuleCache :=
  match cache.find? (RuleKey.of kind specifier) with
  | some rule => (.ok rule, cache)
  | none => cache.compileInto (RuleKey.of kind specifier)

theorem rule_fst (cache : RuleCache) (kind : Kind) (specifier : String) :
    (cache.rule kind specifier).1 = Rule.compile kind specifier := by
  rw [← RuleKey.compile_of]
  unfold rule
  split
  · next found => exact (compile_of_find? found).symm
  · exact compileInto_fst ..

end RuleCache
end Mintmark.Format
