import Mintmark.Proofs.Layout.Violations

/-!
# Edits

To edit a layout is to edit the plain list of what its elements say: positions play no part in it, and
the result is numbered anew. What an edit makes of a list is said here by cutting the list at the
places that the edit names, and without counting; an edit is refused exactly if it names a place
beyond the end. What holds of one edit holds along every script of edits, where those that are refused
change nothing.
-/

namespace Mintmark

/-- What an element says, apart from its position. -/
structure Content where
  kind : Kind
  value : Option String
  format : Option String
deriving DecidableEq, Repr

def Element.content (e : Element) : Content := ⟨e.kind, e.value, e.format⟩

inductive Edit where
  | append (e : Element)
  | appendNew (kind : Kind)
  | erase (i : Nat)
  | replace (i : Nat) (e : Element)
  | move (source target : Nat)
deriving DecidableEq, Repr

namespace Edit

/-- The places that an edit names. -/
def places : Edit → List Nat
  | append _ | appendNew _ => []
  | erase i | replace i _ => [i]
  | move source target => [source, target]

/-- The second list is what the edit makes of the first one. A place is told by what stands before
it; an element that is moved leaves all others in their order. -/
inductive Makes : Edit → List Content → List Content → Prop
  | append {cs : List Content} (e : Element) : Makes (.append e) cs (cs ++ [e.content])
  | appendNew {cs : List Content} (kind : Kind) :
      Makes (.appendNew kind) cs (cs ++ [(Element.ofKind kind).content])
  | erase {i : Nat} {before after : List Content} (c : Content) (place : before.length = i) :
      Makes (.erase i) (before ++ c :: after) (before ++ after)
  | replace {i : Nat} {before after : List Content} (c : Content) (e : Element)
      (place : before.length = i) :
      Makes (.replace i e) (before ++ c :: after) (before ++ e.content :: after)
  | move {source target : Nat} {before after before' after' : List Content} (c : Content)
      (place : before.length = source) (place' : before'.length = target)
      (others : before ++ after = before' ++ after') :
      Makes (.move source target) (before ++ c :: after) (before' ++ c :: after')

variable {edit : Edit} {cs cs' cs'' : List Content}

theorem Makes.within (makes : edit.Makes cs cs') : ∀ i ∈ edit.places, i < cs.length := by
  intro i named
  cases makes with
  | append | appendNew => cases named
  | erase c place | replace c e place =>
    cases List.mem_singleton.mp named
    rw [List.length_append, List.length_cons]
    omega
  | move c place place' others =>
    have length := congrArg List.length others
    simp only [List.length_append, List.length_cons] at length ⊢
    rcases List.mem_pair.mp named with rfl | rfl <;> omega

/-- An edit makes one thing of a list. -/
theorem Makes.unique (makes : edit.Makes cs cs') (makes' : edit.Makes cs cs'') : cs' = cs'' := by
  generalize same : cs = cs₀ at makes'
  cases makes with
  | append =>
    cases makes'
    rw [same]
  | appendNew =>
    cases makes'
    rw [same]
  | erase c place =>
    cases makes' with
    | erase d there =>
      obtain ⟨rfl, rest⟩ := List.append_inj same (place.trans there.symm)
      cases rest
      rfl
  | replace c e place =>
    cases makes' with
    | replace d _ there =>
      obtain ⟨rfl, rest⟩ := List.append_inj same (place.trans there.symm)
      cases rest
      rfl
  | move c place place' others =>
    cases makes' with
    | move d there there' others' =>
      obtain ⟨rfl, rest⟩ := List.append_inj same (place.trans there.symm)
      cases rest
      obtain ⟨rfl, rfl⟩ := List.append_inj (others.symm.trans others') (place'.trans there'.symm)
      rfl

/-- Whatever is moved can be moved back. -/
theorem Makes.back {source target : Nat} (makes : (Edit.move source target).Makes cs cs') :
    (Edit.move target source).Makes cs' cs := by
  cases makes with
  | move c place place' others => exact .move c place' place others.symm

end Edit

namespace Layout

def contents (l : Layout) : List Content := l.elements.map Element.content

/-- Every element has its place for a position. -/
def Numbered (l : Layout) : Prop :=
  ∀ (i : Nat) (e : Element), l.elements[i]? = some e → e.order = i

theorem length_contents (l : Layout) : l.contents.length = l.size := List.length_map ..

theorem contents_ofList (elements : List Element) :
    (ofList elements).contents = elements.map Element.content := by
  apply List.ext_getElem?
  intro i
  simp only [contents, ofList, List.getElem?_map, List.getElem?_mapIdx, Option.map_map]
  rfl

theorem numbered_ofList (elements : List Element) : (ofList elements).Numbered := by
  intro i e here
  rw [ofList, List.getElem?_mapIdx] at here
  obtain ⟨original, -, rfl⟩ := Option.map_eq_some_iff.mp here
  rfl

/-- What its elements say is all there is to a numbered layout. -/
theorem Numbered.ext {l l' : Layout} (numbered : l.Numbered) (numbered' : l'.Numbered)
    (same : l.contents = l'.contents) : l = l' := by
  have elements : l.elements = l'.elements := by
    apply List.ext_getElem
    · simpa only [contents, List.length_map] using congrArg List.length same
    · intro i within within'
      have order := numbered i _ (List.getElem?_eq_getElem within)
      have order' := numbered' i _ (List.getElem?_eq_getElem within')
      have content : l.elements[i].content = l'.elements[i].content := by
        have both := congrArg (·[i]?) same
        simpa [contents, within, within'] using both
      generalize l.elements[i] = e at *
      generalize l'.elements[i] = e' at *
      cases e
      cases e'
      cases order.trans order'.symm
      cases content
      rfl
  cases l
  cases l'
  cases elements
  rfl

def edit? (l : Layout) : Edit → Option Layout
  | .append e => some (l.append e)
  | .appendNew kind => some (l.appendNew kind)
  | .erase i => l.erase? i
  | .replace i e => l.replace? i e
  | .move source target => l.move? source target

section Cut

variable {α : Type}

/-- A list can be cut at any of its places. -/
theorem exists_cut {as : List α} {i : Nat} (within : i < as.length) :
    ∃ before a after, before.length = i ∧ as = before ++ a :: after := by
  refine ⟨as.take i, as[i], as.drop (i + 1), List.length_take_of_le (Nat.le_of_lt within), ?_⟩
  rw [List.getElem_cons_drop, List.take_append_drop]

theorem eraseIdx_cut (before : List α) (a : α) (after : List α) :
    (before ++ a :: after).eraseIdx before.length = before ++ after := by
  rw [List.eraseIdx_append_of_length_le (Nat.le_refl _), Nat.sub_self, List.eraseIdx_cons_zero]

theorem set_cut (before : List α) (a b : α) (after : List α) :
    (before ++ a :: after).set before.length b = before ++ b :: after := by
  rw [List.set_append_right _ _ (Nat.le_refl _), Nat.sub_self, List.set_cons_zero]

theorem insertIdx_cut (before after : List α) (a : α) :
    (before ++ after).insertIdx before.length a = before ++ a :: after := by
  induction before with
  | nil => exact List.insertIdx_zero
  | cons b before ih =>
    rw [List.cons_append, List.length_cons, List.insertIdx_succ_cons, ih, List.cons_append]

end Cut

theorem makes_of_edit? {l l' : Layout} {edit : Edit} (done : l.edit? edit = some l') :
    edit.Makes l.contents l'.contents ∧ l'.Numbered := by
  cases edit with
  | append e =>
    cases done
    refine ⟨?_, numbered_ofList _⟩
    rw [append, contents_ofList, List.map_append]
    exact .append e
  | appendNew kind =>
    cases done
    refine ⟨?_, numbered_ofList _⟩
    rw [appendNew, append, contents_ofList, List.map_append]
    exact .appendNew kind
  | erase i =>
    obtain ⟨within, made⟩ := Option.ite_none_right_eq_some.mp done
    cases made
    refine ⟨?_, numbered_ofList _⟩
    obtain ⟨before, a, after, rfl, cut⟩ := exists_cut within
    rw [contents_ofList, contents, cut, eraseIdx_cut, List.map_append, List.map_append]
    exact .erase a.content (List.length_map ..)
  | replace i e =>
    obtain ⟨within, made⟩ := Option.ite_none_right_eq_some.mp done
    cases made
    refine ⟨?_, numbered_ofList _⟩
    obtain ⟨before, a, after, rfl, cut⟩ := exists_cut within
    rw [contents_ofList, contents, cut, set_cut, List.map_append, List.map_append]
    exact .replace a.content e (List.length_map ..)
  | move source target =>
    obtain ⟨inside, taken⟩ := Option.ite_none_right_eq_some.mp done
    obtain ⟨e, here, made⟩ := Option.map_eq_some_iff.mp taken
    cases made
    refine ⟨?_, numbered_ofList _⟩
    obtain ⟨within, found⟩ := List.getElem?_eq_some_iff.mp here
    obtain ⟨before, a, after, rfl, cut⟩ := exists_cut within
    -- the place to put it is one of the list without it, or its end
    have others : target ≤ (before ++ after).length := by
      rw [size, cut, List.length_append, List.length_cons] at inside
      rw [List.length_append]
      omega
    have same : a = e := by simpa [cut] using found
    have rest : before ++ after =
        (before ++ after).take target ++ (before ++ after).drop target :=
      (List.take_append_drop ..).symm
    generalize put : (before ++ after).take target = before' at rest
    generalize (before ++ after).drop target = after' at rest
    have place : before'.length = target := put ▸ List.length_take_of_le others
    subst place same
    rw [contents_ofList, contents, cut, eraseIdx_cut, rest, insertIdx_cut, List.map_append,
      List.map_append]
    refine .move a.content (List.length_map ..) (List.length_map ..) ?_
    rw [← List.map_append, ← List.map_append, rest]

/-- An edit is refused exactly if it names a place beyond the end. -/
theorem edit?_eq_none_iff {l : Layout} {edit : Edit} :
    l.edit? edit = none ↔ ∃ i ∈ edit.places, l.size ≤ i := by
  cases edit with
  | append e | appendNew kind => simp [edit?, Edit.places]
  | erase i | replace i e => simp [edit?, Edit.places, erase?, replace?]
  | move source target =>
    have named : (∃ i ∈ (Edit.move source target).places, l.size ≤ i) ↔
        l.size ≤ source ∨ l.size ≤ target := by simp [Edit.places]
    rw [named, edit?, move?]
    by_cases inside : target < l.size
    · rw [if_pos inside, Option.map_eq_none_iff, List.getElem?_eq_none_iff]
      exact (or_iff_left (Nat.not_le.mpr inside)).symm
    · rw [if_neg inside]
      exact iff_of_true rfl (.inr (Nat.not_lt.mp inside))

/-- What an edit gives is told by what it makes of the plain list. -/
theorem edit?_eq_some_iff {l l' : Layout} {edit : Edit} :
    l.edit? edit = some l' ↔ edit.Makes l.contents l'.contents ∧ l'.Numbered := by
  refine ⟨makes_of_edit?, ?_⟩
  rintro ⟨makes, numbered⟩
  have named : ¬ ∃ i ∈ edit.places, l.size ≤ i := by
    rintro ⟨i, named, beyond⟩
    have within := makes.within i named
    rw [length_contents] at within
    omega
  rw [← edit?_eq_none_iff] at named
  obtain ⟨made, done⟩ := Option.ne_none_iff_exists'.mp named
  obtain ⟨makes', numbered'⟩ := makes_of_edit? done
  rw [done, numbered'.ext numbered (makes'.unique makes)]

/-- The answers to a script of edits. An edit that is refused leaves the layout as it was. -/
def editAll (l : Layout) : List Edit → List (Option Layout)
  | [] => []
  | edit :: edits => l.edit? edit :: ((l.edit? edit).getD l).editAll edits

end Layout

/-- The answers to a script, told by what its edits make of a plain list. -/
inductive Edit.MakesAll : List Edit → List Content → List (Option (List Content)) → Prop
  | nil {cs : List Content} : MakesAll [] cs []
  | made {edit : Edit} {edits : List Edit} {cs cs' : List Content}
      {answers : List (Option (List Content))} (makes : edit.Makes cs cs')
      (rest : MakesAll edits cs' answers) : MakesAll (edit :: edits) cs (some cs' :: answers)
  | refused {edit : Edit} {edits : List Edit} {cs : List Content}
      {answers : List (Option (List Content))} (beyond : ∃ i ∈ edit.places, cs.length ≤ i)
      (rest : MakesAll edits cs answers) : MakesAll (edit :: edits) cs (none :: answers)

namespace Layout

theorem makesAll_editAll (l : Layout) (edits : List Edit) :
    Edit.MakesAll edits l.contents ((l.editAll edits).map (Option.map contents)) := by
  induction edits generalizing l with
  | nil => exact .nil
  | cons edit edits ih =>
    rw [editAll, List.map_cons]
    cases done : l.edit? edit with
    | some l' => exact .made (edit?_eq_some_iff.mp done).1 (ih l')
    | none =>
      have beyond := edit?_eq_none_iff.mp done
      rw [← length_contents] at beyond
      exact .refused beyond (ih l)

theorem numbered_of_mem_editAll {l l' : Layout} {edits : List Edit}
    (answered : some l' ∈ l.editAll edits) : l'.Numbered := by
  induction edits generalizing l with
  | nil => cases answered
  | cons edit edits ih =>
    rcases List.mem_cons.mp answered with done | later
    · exact (edit?_eq_some_iff.mp done.symm).2
    · exact ih later

/-- Nothing is found in the positions of a numbered layout. -/
theorem Numbered.ne_badOrder {l : Layout} (numbered : l.Numbered) {mode : Mode}
    {cache : Format.RuleCache} {f : Finding} (found : f ∈ (l.check mode cache).1) (order count : Nat) :
    f.problem ≠ .badOrder order count := by
  intro same
  cases mem_check_iff_violates.mp found with
  | tooMany large => cases same
  | noElements commit empty => cases same
  | misplaced here elsewhere => exact elsewhere (numbered _ _ here)
  | element here violates => cases violates <;> cases same

/-- The position of the first element that shows the counter is told by what stands before it. -/
theorem sequenceIndex?_eq_some_iff {l : Layout} {i : Nat} :
    l.sequenceIndex? = some i ↔ ∃ before c after, l.contents = before ++ c :: after ∧
      before.length = i ∧ c.kind = .sequence ∧ ∀ d ∈ before, d.kind ≠ .sequence := by
  have plain : l.sequenceIndex? = l.contents.findIdx? (·.kind == .sequence) := by
    rw [contents, List.findIdx?_map]
    rfl
  rw [plain]
  constructor
  · intro found
    obtain ⟨within, here, earlier⟩ := List.findIdx?_eq_some_iff_getElem.mp found
    obtain ⟨before, c, after, rfl, cut⟩ := exists_cut within
    refine ⟨before, c, after, cut, rfl, by simpa [cut] using here, fun d member => ?_⟩
    obtain ⟨j, inside, rfl⟩ := List.getElem_of_mem member
    simpa [cut, inside] using earlier j inside
  · rintro ⟨before, c, after, cut, rfl, here, earlier⟩
    have none : before.findIdx? (·.kind == .sequence) = none := by
      simpa [List.findIdx?_eq_none_iff] using earlier
    rw [cut, List.findIdx?_append, none, List.findIdx?_cons, here]
    simp

theorem sequenceIndex?_eq_none_iff_contents {l : Layout} :
    l.sequenceIndex? = none ↔ ∀ c ∈ l.contents, c.kind ≠ .sequence := by
  simp [sequenceIndex?, contents, Element.content]

/-- For any script of edits on any layout: an edit is refused exactly if it names a place beyond the
end, and otherwise gives the layout, numbered from zero, of what it makes of the plain list. So no
position of such a layout is objected to, what was moved can be moved back, and the counter is shown
first where the list first does. -/
theorem edits_make_plain_lists (l : Layout) (edits : List Edit) :
    Edit.MakesAll edits l.contents ((l.editAll edits).map (Option.map contents)) ∧
    (∀ edit, (l.edit? edit = none ↔ ∃ i ∈ edit.places, l.size ≤ i) ∧
      ∀ l', l.edit? edit = some l' ↔ edit.Makes l.contents l'.contents ∧ l'.Numbered) ∧
    (∀ l', some l' ∈ l.editAll edits → l'.Numbered ∧
      (∀ mode cache, ∀ f ∈ (l'.check mode cache).1, ∀ order count,
        f.problem ≠ .badOrder order count) ∧
      (∀ i, l'.sequenceIndex? = some i ↔ ∃ before c after, l'.contents = before ++ c :: after ∧
        before.length = i ∧ c.kind = .sequence ∧ ∀ d ∈ before, d.kind ≠ .sequence) ∧
      (l'.sequenceIndex? = none ↔ ∀ c ∈ l'.contents, c.kind ≠ .sequence)) ∧
    ∀ source target l', l.move? source target = some l' →
      ∃ l'', l'.move? target source = some l'' ∧ l''.contents = l.contents ∧ l''.Numbered := by
  refine ⟨l.makesAll_editAll edits, fun edit => ?_, fun l' answered => ?_, ?_⟩
  · exact ⟨edit?_eq_none_iff, fun l' => edit?_eq_some_iff⟩
  · have numbered := numbered_of_mem_editAll answered
    refine ⟨numbered, ?_, fun i => sequenceIndex?_eq_some_iff, sequenceIndex?_eq_none_iff_contents⟩
    exact fun mode cache f found order count => numbered.ne_badOrder found order count
  · intro source target l' moved
    have done : l.edit? (.move source target) = some l' := moved
    have makes := (makes_of_edit? done).1
    have back : l'.edit? (.move target source) = some (ofList l.elements) := by
      rw [edit?_eq_some_iff, contents_ofList]
      exact ⟨makes.back, numbered_ofList l.elements⟩
    exact ⟨ofList l.elements, back, contents_ofList l.elements, numbered_ofList l.elements⟩

/-- A layout with a position twice and a gap. -/
def straggling : Layout where
  elements := [{ kind := .fixedText, value := some "A", order := 4 },
    { kind := .sequence, format := some "D4", order := 4 }, { kind := .guid, order := 9 }]
  sorted := by decide

/-- The first element goes to the end and comes back, and there is no fourth one to take away. -/
theorem straggling_moved_and_back :
    ∃ l' l'', straggling.move? 0 2 = some l' ∧ l'.Numbered ∧
      l'.contents.map (·.kind) = [.sequence, .guid, .fixedText] ∧ l'.sequenceIndex? = some 0 ∧
      l'.move? 2 0 = some l'' ∧ l''.contents = straggling.contents ∧
      straggling.edit? (.erase 3) = none := by
  obtain ⟨-, each, answered, back⟩ := edits_make_plain_lists straggling [.move 0 2]
  have moved : straggling.move? 0 2 = some (ofList (straggling.elements.rotate 1)) := by decide
  have given : some (ofList (straggling.elements.rotate 1)) ∈ straggling.editAll [.move 0 2] := by
    rw [editAll, edit?, moved]
    exact List.mem_cons_self
  obtain ⟨numbered, -, first, -⟩ := answered _ given
  obtain ⟨l'', returned, same, -⟩ := back 0 2 _ moved
  refine ⟨_, l'', moved, numbered, by decide, ?_, returned, same, ?_⟩
  · exact (first 0).mpr ⟨[], _, _, rfl, rfl, rfl, nofun⟩
  · exact (each (.erase 3)).1.mpr ⟨3, List.mem_singleton_self 3, Nat.le_refl 3⟩

end Layout
end Mintmark
