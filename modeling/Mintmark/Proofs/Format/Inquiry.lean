import Mintmark.Format.Cache

/-!
# Inquiries

Work that asks for rules on its way and goes on with the answers. What it comes to if every answer
is what compiling gives says nothing of a cache. A cache that nobody else uses gives those answers,
whatever it holds.
-/

namespace Mintmark.Format

inductive Inquiry (α : Type) where
  | done (a : α)
  | ask (kind : Kind) (specifier : String) (next : Except Problem Rule → Inquiry α)

namespace Inquiry

variable {α β : Type}

/-- What the work comes to if each rule is compiled when it is asked for. -/
def value : Inquiry α → α
  | done a => a
  | ask kind specifier next => (next (Rule.compile kind specifier)).value

/-- The work with a cache to itself. -/
def alone : Inquiry α → RuleCache → α × RuleCache
  | done a, cache => (a, cache)
  | ask kind specifier next, cache =>
    (next (cache.rule kind specifier).1).alone (cache.rule kind specifier).2

theorem alone_fst (work : Inquiry α) (cache : RuleCache) : (work.alone cache).1 = work.value := by
  induction work generalizing cache with
  | done a => rfl
  | ask kind specifier next ih => rw [alone, ih, RuleCache.rule_fst, value]

/-- Goes on with what some work comes to. -/
def andThen : Inquiry α → (α → Inquiry β) → Inquiry β
  | done a, rest => rest a
  | ask kind specifier next, rest => ask kind specifier fun answer => (next answer).andThen rest

theorem alone_andThen (work : Inquiry α) (rest : α → Inquiry β) (cache : RuleCache) :
    (work.andThen rest).alone cache = (rest (work.alone cache).1).alone (work.alone cache).2 := by
  induction work generalizing cache with
  | done a => rfl
  | ask kind specifier next ih => exact ih ..

theorem value_andThen (work : Inquiry α) (rest : α → Inquiry β) :
    (work.andThen rest).value = (rest work.value).value := by
  induction work with
  | done a => rfl
  | ask kind specifier next ih => exact ih _

end Inquiry
end Mintmark.Format
