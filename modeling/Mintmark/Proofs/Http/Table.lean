import Mathlib.Data.List.Pairwise
import Mintmark.Proofs.Http.Routing

/-!
# Tables of routes

Entries are added to a table one by one. All of them find room if and only if their paths can be
read and no two of them collide, and the table then serves each of them. Of the routes that fit a
path the one is found that has fixed text where it first differs from the others.
-/

namespace Mintmark.Http

namespace PathPart

variable {x : PathPart} {p q : List PathPart} {pre cs : List Char} {values values' : List String}

theorem clash_comm (p q : List PathPart) : clash p q = clash q p := by
  induction p generalizing q with
  | nil => cases q with
    | nil => rfl
    | cons y q => cases y <;> rfl
  | cons x p ih => cases q with
    | nil => cases x <;> rfl
    | cons y q => cases x <;> cases y <;> simp [clash, isFixed, ih, BEq.comm]

/-- A pattern without captures clashes with nothing but itself. -/
theorem eq_of_clash_fixed (clashes : clash (pre.map fixed) q = true) : q = pre.map fixed := by
  induction pre generalizing q with
  | nil => cases q with
    | nil => rfl
    | cons y q => cases y <;> cases clashes
  | cons c pre ih => cases q with
    | nil => cases clashes
    | cons y q => cases y with
      | fixed d =>
        rw [List.map_cons, clash, Bool.and_eq_true, beq_iff_eq] at clashes
        rw [ih clashes.2, clashes.1, List.map_cons]
      | capture name => cases clashes
      | remainder name => cases clashes

/-- Whether the first pattern has fixed text where the two first differ in kind. -/
def precedes : List PathPart → List PathPart → Bool
  | x :: p, y :: q => if x.isFixed = y.isFixed then precedes p q else x.isFixed
  | _, _ => false

theorem precedes_asymm (before : precedes p q = true) : precedes q p = false := by
  induction p generalizing q with
  | nil => cases before
  | cons x p ih => cases q with
    | nil => cases before
    | cons y q =>
      rw [precedes] at before ⊢
      split at before
      · next same => rw [if_pos same.symm, ih before]
      · next differ =>
        rw [if_neg (Ne.symm differ)]
        exact Bool.eq_false_iff.mpr fun fixed => differ (before.trans fixed.symm)

theorem precedes_self (p : List PathPart) : precedes p p = false :=
  Bool.eq_false_iff.mpr fun before => Bool.false_ne_true ((precedes_asymm before).symm.trans before)

/-- What it takes for a pattern with a first part to fit. -/
theorem fits_cons (fits : capture? (x :: p) cs = some values) :
    (∃ c ds, x = fixed c ∧ cs = c :: ds ∧ capture? p ds = some values) ∨
    (∃ name us, x = capture name ∧ capture? p (cs.dropWhile (· != '/')) = some us) ∨
    ∃ name, x = remainder name := by
  cases x with
  | fixed c => cases cs with
    | nil => cases fits
    | cons d ds =>
      rw [capture?] at fits
      split at fits
      · next here => exact .inl ⟨c, ds, rfl, by rw [here], fits⟩
      · cases fits
  | capture name => cases cs with
    | nil => cases fits
    | cons d ds =>
      obtain ⟨us, behind, -⟩ := Option.bind_eq_some_iff.mp fits
      exact .inr (.inl ⟨name, us, rfl, behind⟩)
  | remainder name => exact .inr (.inr ⟨name, rfl⟩)

theorem capture?_cons_nil (x : PathPart) (p : List PathPart) : capture? (x :: p) [] = none := by
  cases x with
  | fixed c => rfl
  | capture name => rfl
  | remainder name => cases p <;> rfl

theorem capture?_nil_eq_some (fits : capture? [] cs = some values) : cs = [] := by
  cases cs with
  | nil => rfl
  | cons c cs => cases fits

/-- Two patterns that fit one path differ in kind somewhere, or else they clash. -/
theorem precedes_of_fits (fits : capture? p cs = some values) (fits' : capture? q cs = some values')
    (told : clash p q = false) : precedes p q = true ∨ precedes q p = true := by
  induction p generalizing q cs values values' with
  | nil => cases q with
    | nil => cases told
    | cons y q =>
      rw [capture?_nil_eq_some fits, capture?_cons_nil] at fits'
      cases fits'
  | cons x p ih => cases q with
    | nil =>
      rw [capture?_nil_eq_some fits', capture?_cons_nil] at fits
      cases fits
    | cons y q =>
      rw [precedes, precedes]
      rcases fits_cons fits with ⟨c, ds, rfl, rfl, behind⟩ | ⟨name, us, rfl, behind⟩ | ⟨name, rfl⟩
      · rcases fits_cons fits' with ⟨c', ds', rfl, here, behind'⟩ | ⟨_, _, rfl, _⟩ | ⟨_, rfl⟩
        · cases here
          rw [clash, beq_self_eq_true, Bool.true_and] at told
          exact ih behind behind' told
        · exact .inl rfl
        · exact .inl rfl
      · rcases fits_cons fits' with ⟨c', ds', rfl, _⟩ | ⟨name', us', rfl, behind'⟩ | ⟨name', rfl⟩
        · exact .inr rfl
        · exact ih behind behind' told
        · cases told
      · cases y with
        | fixed c' => exact .inr rfl
        | capture name' => cases told
        | remainder name' => cases told

/-- Whether the patterns tell by their own text that no path fits them both. -/
def apart : List PathPart → List PathPart → Bool
  | fixed a :: p, fixed b :: q => a != b || apart p q
  | capture _ :: p, capture _ :: q => apart p q
  | [], _ :: _ | _ :: _, [] => true
  | _, _ => false

theorem clash_of_apart (apart : apart p q = true) : clash p q = false := by
  induction p generalizing q with
  | nil => cases q with
    | nil => cases apart
    | cons y q => cases y <;> rfl
  | cons x p ih => cases q with
    | nil => cases x <;> rfl
    | cons y q => cases x with
      | fixed a => cases y with
        | fixed b =>
          rw [PathPart.apart, Bool.or_eq_true, bne_iff_ne] at apart
          rw [clash, Bool.and_eq_false_iff, beq_eq_false_iff_ne]
          exact apart.imp_right ih
        | capture name => cases apart
        | remainder name => cases apart
      | capture name => cases y with
        | fixed b => cases apart
        | capture name' => exact ih apart
        | remainder name' => cases apart
      | remainder name => cases y <;> cases apart

theorem not_fits_of_apart (apart : apart p q = true) (fits : capture? p cs = some values) :
    capture? q cs = none := by
  refine Option.eq_none_iff_forall_ne_some.mpr fun values' fits' => ?_
  induction p generalizing q cs values values' with
  | nil => cases q with
    | nil => cases apart
    | cons y q =>
      rw [capture?_nil_eq_some fits, capture?_cons_nil] at fits'
      cases fits'
  | cons x p ih => cases q with
    | nil =>
      rw [capture?_nil_eq_some fits', capture?_cons_nil] at fits
      cases fits
    | cons y q =>
      rcases fits_cons fits with ⟨c, ds, rfl, rfl, behind⟩ | ⟨name, us, rfl, behind⟩ | ⟨name, rfl⟩
      · rcases fits_cons fits' with ⟨c', ds', rfl, here, behind'⟩ | ⟨_, _, rfl, _⟩ | ⟨_, rfl⟩
        · cases here
          rw [PathPart.apart, bne_self_eq_false, Bool.false_or] at apart
          exact ih apart behind values' behind'
        · cases apart
        · cases apart
      · rcases fits_cons fits' with ⟨c', ds', rfl, _⟩ | ⟨name', us', rfl, behind'⟩ | ⟨name', rfl⟩
        · cases apart
        · exact ih apart behind us' behind'
        · cases apart
      · cases y <;> cases apart

end PathPart

namespace Route

variable {listed more : List (String × String × Endpoint)} {routes routes' : List Route}
  {path method : String} {endpoint : Endpoint}

theorem isBefore_eq (a b : Route) : isBefore a b = PathPart.precedes a.pattern b.pattern := by
  rw [isBefore]
  generalize a.pattern = p
  generalize b.pattern = q
  induction p generalizing q with
  | nil => rfl
  | cons x p ih => cases q with
    | nil => rfl
    | cons y q =>
      rw [PathPart.precedes, List.zip_cons_cons]
      by_cases same : x.isFixed = y.isFixed
      · rw [if_pos same, ← ih q, List.find?_cons_of_neg (by simpa using same)]
      · rw [if_neg same, List.find?_cons_of_pos (by simpa using same)]

/-- What is taken in place of anything else, and given up for nothing, is what a fold chooses. -/
theorem foldl_eq_some {α : Type} {choose : Option α → α → Option α}
    (chooses : ∀ best a, choose best a = best ∨ choose best a = some a) {as : List α} {a : α}
    (member : a ∈ as) (taken : ∀ best, (∀ b ∈ best, b ∈ as) → choose best a = some a)
    (kept : ∀ b ∈ as, choose (some a) b = some a) : as.foldl choose none = some a := by
  obtain ⟨front, back, rfl⟩ := List.append_of_mem member
  have before : ∀ b ∈ front.foldl choose none, b ∈ front ++ a :: back := by
    intro b found
    exact List.mem_append_left _ ((mem_of_foldl chooses found).resolve_left nofun)
  have after : back.foldl choose (some a) = some a := by
    rw [List.forall_mem_append, List.forall_mem_cons] at kept
    have still := kept.2.2
    clear * - still
    induction back with
    | nil => rfl
    | cons b back ih =>
      rw [List.forall_mem_cons] at still
      rw [List.foldl_cons, still.1, ih still.2]
  rw [List.foldl_append, List.foldl_cons, taken _ before, after]

/-- The route that precedes all others that fit a path is found. -/
theorem find?_of_precedes {r : Route} {values : List String} (member : r ∈ routes)
    (fits : PathPart.capture? r.pattern path.toList = some values)
    (first : ∀ other ∈ routes, other ≠ r →
      ∀ us, PathPart.capture? other.pattern path.toList = some us →
        PathPart.precedes r.pattern other.pattern = true) :
    find? routes path = some (r, values) := by
  have candidate : ∀ b ∈ fitting routes path,
      b = (r, values) ∨ PathPart.precedes r.pattern b.1.pattern = true := by
    rintro ⟨other, us⟩ among
    obtain ⟨there, captures⟩ := mem_fitting_iff.mp among
    by_cases same : other = r
    · subst same
      exact .inl (by rw [Option.some.inj (captures.symm.trans fits)])
    · exact .inr (first other there same us captures)
  rw [find?_eq]
  refine foldl_eq_some prefer_cases (mem_fitting_iff.mpr ⟨member, fits⟩) ?_ ?_
  · intro best held
    cases best with
    | none => rfl
    | some b =>
      rw [prefer, isBefore_eq]
      rcases candidate b (held b rfl) with rfl | before
      · rw [PathPart.precedes_self, if_neg Bool.false_ne_true]
      · rw [if_pos before]
  · intro b among
    rw [prefer, isBefore_eq]
    rcases candidate b among with rfl | before
    · rw [PathPart.precedes_self, if_neg Bool.false_ne_true]
    · rw [PathPart.precedes_asymm before, if_neg Bool.false_ne_true]

/-! ### What finds room in a table -/

/-- Two entries that one table can hold. At one path they have different methods, and different
paths can be told apart. -/
def Compatible (e e' : String × String × Endpoint) : Prop :=
  (e.1 = e'.1 → e.2.1 ≠ e'.2.1) ∧
  (e.1 ≠ e'.1 → ∀ p ∈ PathPart.parse? e.1, ∀ q ∈ PathPart.parse? e'.1, PathPart.clash p q = false)

instance (e e' : String × String × Endpoint) : Decidable (Compatible e e') :=
  inferInstanceAs (Decidable (_ ∧ _))

/-- Two routes of different paths that can be told apart. -/
def Distinct (r r' : Route) : Prop :=
  r.path ≠ r'.path ∧ PathPart.clash r.pattern r'.pattern = false

instance : Std.Symm Distinct where
  symm r r' := by
    rintro ⟨paths, patterns⟩
    exact ⟨paths.symm, PathPart.clash_comm r.pattern r'.pattern ▸ patterns⟩

/-- The table serves what is listed, and nothing else. -/
structure Tabled (listed : List (String × String × Endpoint)) (routes : List Route) : Prop where
  among : ∀ r ∈ routes, r.Among listed
  used : ∀ r ∈ routes, r.methods ≠ []
  served : ∀ path method endpoint, (path, method, endpoint) ∈ listed →
    ∃ r ∈ routes, r.path = path ∧ r.methods.lookup method = some endpoint
  distinct : routes.Pairwise Distinct

theorem tabled_nil : Tabled [] [] where
  among := nofun
  used := nofun
  served := nofun
  distinct := .nil

theorem Among.mono {r : Route} (among : r.Among listed) (subset : listed ⊆ more) : r.Among more :=
  ⟨among.pattern, fun m here => subset (among.methods m here)⟩

namespace Tabled

theorem unique (tabled : Tabled listed routes) {r r' : Route} (member : r ∈ routes)
    (member' : r' ∈ routes) (same : r.path = r'.path) : r = r' :=
  Classical.byContradiction fun differ => (tabled.distinct.forall member member' differ).1 same

theorem exists_listed (tabled : Tabled listed routes) {r : Route} (member : r ∈ routes) :
    ∃ method endpoint, (r.path, method, endpoint) ∈ listed := by
  obtain ⟨m, here⟩ := List.exists_mem_of_ne_nil _ (tabled.used r member)
  exact ⟨m.1, m.2, (tabled.among r member).methods m here⟩

end Tabled

/-- A route of the path with one more endpoint, and any other route as it is. -/
def extend (path method : String) (endpoint : Endpoint) (r : Route) : Route :=
  if r.path == path then { r with methods := r.methods ++ [(method, endpoint)] } else r

@[simp]
theorem path_extend (r : Route) : (extend path method endpoint r).path = r.path := by
  rw [extend]
  split <;> rfl

@[simp]
theorem pattern_extend (r : Route) : (extend path method endpoint r).pattern = r.pattern := by
  rw [extend]
  split <;> rfl

/-- All that adding an endpoint can do. -/
theorem add_cases (made : add routes path method endpoint = .ok routes') :
    ∃ pattern, PathPart.parse? path = some pattern ∧
      ((∃ r ∈ routes, r.path = path ∧ r.methods.lookup method = none ∧
          routes' = routes.map (extend path method endpoint)) ∨
        ((∀ r ∈ routes, r.path ≠ path ∧ PathPart.clash r.pattern pattern = false) ∧
          routes' = routes ++ [{ path, pattern, methods := [(method, endpoint)] }])) := by
  unfold add at made
  cases parsed : PathPart.parse? path with
  | none =>
    rw [parsed] at made
    cases made
  | some pattern =>
    rw [parsed] at made
    refine ⟨pattern, rfl, ?_⟩
    dsimp only at made
    split at made
    · next r found =>
      split at made
      · cases made
      · next free =>
        cases made
        refine .inl ⟨r, List.mem_of_find?_eq_some found, ?_, ?_, rfl⟩
        · have here := List.find?_some found
          exact beq_iff_eq.mp here
        · exact Option.not_isSome_iff_eq_none.mp free
    · next absent =>
      split at made
      · cases made
      · next distinct =>
        cases made
        refine .inr ⟨fun r member => ⟨?_, ?_⟩, rfl⟩
        · exact fun same => List.find?_eq_none.mp absent r member (beq_iff_eq.mpr same)
        · exact Bool.eq_false_iff.mpr (List.find?_eq_none.mp distinct r member)

theorem tabled_add (tabled : Tabled listed routes)
    (made : add routes path method endpoint = .ok routes') :
    Tabled (listed ++ [(path, method, endpoint)]) routes' := by
  have among : ∀ r ∈ routes', r.Among (listed ++ [(path, method, endpoint)]) := by
    refine among_of_add (fun r member => ?_) (List.mem_append_right _ List.mem_cons_self) made
    exact (tabled.among r member).mono (List.subset_append_left _ _)
  obtain ⟨pattern, -, ⟨r, member, rfl, free, rfl⟩ | ⟨apart, rfl⟩⟩ := add_cases made
  · refine ⟨among, ?_, ?_, ?_⟩
    · intro r' there
      obtain ⟨old, before, rfl⟩ := List.mem_map.mp there
      rw [extend]
      split
      · exact List.append_ne_nil_of_right_ne_nil _ (List.cons_ne_nil _ _)
      · exact tabled.used old before
    · intro path' method' endpoint' here
      rcases List.mem_append.mp here with before | new
      · obtain ⟨old, there, same, served⟩ := tabled.served path' method' endpoint' before
        refine ⟨_, List.mem_map_of_mem there, by rw [path_extend, same], ?_⟩
        rw [extend]
        split
        · rw [List.lookup_append, served, Option.some_or]
        · exact served
      · cases List.mem_singleton.mp new
        refine ⟨_, List.mem_map_of_mem member, path_extend r, ?_⟩
        rw [extend, if_pos (beq_self_eq_true _), List.lookup_append, free, Option.none_or]
        exact List.lookup_cons_self
    · rw [List.pairwise_map]
      refine tabled.distinct.imp fun {a b} distinct => ?_
      rwa [Distinct, path_extend, path_extend, pattern_extend, pattern_extend]
  · refine ⟨among, ?_, ?_, ?_⟩
    · rw [List.forall_mem_append]
      refine ⟨tabled.used, fun r' new => ?_⟩
      cases List.mem_singleton.mp new
      exact List.cons_ne_nil _ _
    · intro path' method' endpoint' here
      rcases List.mem_append.mp here with before | new
      · obtain ⟨old, there, found⟩ := tabled.served path' method' endpoint' before
        exact ⟨old, List.mem_append_left _ there, found⟩
      · cases List.mem_singleton.mp new
        exact ⟨_, List.mem_append_right _ List.mem_cons_self, rfl, List.lookup_cons_self⟩
    · rw [List.pairwise_append]
      refine ⟨tabled.distinct, List.pairwise_singleton _ _, fun r' there new' new => ?_⟩
      cases List.mem_singleton.mp new
      exact apart r' there

/-- What was added can be read and collides with nothing before it. -/
theorem compatible_of_add (tabled : Tabled listed routes)
    (made : add routes path method endpoint = .ok routes') :
    (PathPart.parse? path).isSome ∧ ∀ e ∈ listed, Compatible e (path, method, endpoint) := by
  obtain ⟨pattern, parsed, added⟩ := add_cases made
  refine ⟨by rw [parsed]; rfl, fun e member => ?_⟩
  obtain ⟨r, there, same, served⟩ := tabled.served e.1 e.2.1 e.2.2 member
  have read : PathPart.parse? e.1 = some r.pattern := same ▸ (tabled.among r there).pattern
  rw [Compatible, read, parsed]
  rcases added with ⟨r', there', here, free, -⟩ | ⟨apart, -⟩
  · have read' : PathPart.parse? path = some r'.pattern :=
      here ▸ (tabled.among r' there').pattern
    have pattern' : pattern = r'.pattern := Option.some.inj (parsed.symm.trans read')
    constructor
    · intro paths methods
      have one : r = r' := tabled.unique there there' (by rw [same, here, paths])
      rw [one, methods, free] at served
      cases served
    · intro paths p hp q hq
      cases hp
      cases hq
      rw [pattern']
      refine (tabled.distinct.forall there there' fun one => paths ?_).2
      rw [← same, one, here]
  · constructor
    · intro paths
      exact absurd (same.trans paths) (apart r there).1
    · intro paths p hp q hq
      cases hp
      cases hq
      exact (apart r there).2

/-- What can be read and collides with nothing before it is added. -/
theorem exists_add (tabled : Tabled listed routes) (readable : (PathPart.parse? path).isSome)
    (compatible : ∀ e ∈ listed, Compatible e (path, method, endpoint)) :
    ∃ routes', add routes path method endpoint = .ok routes' := by
  obtain ⟨pattern, parsed⟩ := Option.isSome_iff_exists.mp readable
  unfold add
  rw [parsed]
  dsimp only
  split
  · next r found =>
    have member := List.mem_of_find?_eq_some found
    have here := List.find?_some found
    split
    · next taken =>
      obtain ⟨other, served⟩ := Option.isSome_iff_exists.mp taken
      have before := (tabled.among r member).methods _ (mem_methods_of_lookup served)
      exact absurd rfl ((compatible _ before).1 (beq_iff_eq.mp here))
    · exact ⟨_, rfl⟩
  · next absent =>
    split
    · next r found =>
      have member := List.mem_of_find?_eq_some found
      have clashes := List.find?_some found
      have elsewhere : r.path ≠ path := by simpa using List.find?_eq_none.mp absent r member
      obtain ⟨_, _, before⟩ := tabled.exists_listed member
      have told := (compatible _ before).2 elsewhere _ (tabled.among r member).pattern _ parsed
      rw [told] at clashes
      cases clashes
    · exact ⟨_, rfl⟩

theorem tabled_addAll (tabled : Tabled listed routes) (made : addAll routes more = .ok routes') :
    Tabled (listed ++ more) routes' := by
  induction more generalizing listed routes with
  | nil =>
    cases made
    rwa [List.append_nil]
  | cons e more ih =>
    obtain ⟨between, one, made⟩ := exists_of_bind made
    rw [← List.singleton_append, ← List.append_assoc]
    exact ih (tabled_add tabled one) made

/-- Entries all find room if and only if their paths can be read and no two of them collide, neither
with one another nor with those before them. -/
theorem exists_addAll_iff (tabled : Tabled listed routes) :
    (∃ routes', addAll routes more = .ok routes') ↔
      (∀ e ∈ more, (PathPart.parse? e.1).isSome) ∧ more.Pairwise Compatible ∧
        ∀ e ∈ listed, ∀ e' ∈ more, Compatible e e' := by
  induction more generalizing listed routes with
  | nil => exact ⟨fun _ => ⟨nofun, .nil, nofun⟩, fun _ => ⟨routes, rfl⟩⟩
  | cons e more ih =>
    rw [List.forall_mem_cons, List.pairwise_cons]
    constructor
    · rintro ⟨routes', made⟩
      obtain ⟨between, one, made⟩ := exists_of_bind made
      obtain ⟨readable, compatible⟩ := compatible_of_add tabled one
      obtain ⟨others, apart, behind⟩ := (ih (tabled_add tabled one)).mp ⟨routes', made⟩
      have first := behind e (List.mem_append_right _ List.mem_cons_self)
      refine ⟨⟨readable, others⟩, ⟨first, apart⟩, fun e' before => ?_⟩
      rw [List.forall_mem_cons]
      exact ⟨compatible e' before, behind e' (List.mem_append_left _ before)⟩
    · rintro ⟨⟨readable, others⟩, ⟨first, apart⟩, before⟩
      obtain ⟨between, one⟩ := exists_add tabled readable fun e' member =>
        before e' member e List.mem_cons_self
      obtain ⟨routes', made⟩ := (ih (tabled_add tabled one)).mpr ⟨others, apart, by
        rw [List.forall_mem_append, List.forall_mem_singleton]
        exact ⟨fun e' member e'' behind => before e' member e'' (List.mem_cons_of_mem _ behind),
          first⟩⟩
      refine ⟨routes', ?_⟩
      rw [addAll, List.foldlM_cons]
      exact (congrArg (· >>= _) one).trans made

end Route

end Mintmark.Http
