import Gatehouse.Proofs.Bindings.Inclusion

/-!
# Unions of bindings

Binding goes entry by entry and merging goes map by map, and both stop at the first
disagreement with what they have so far.  Neither the order nor the repetition of entries
shows in the result: it is the union of everything that has been put in, and there is one
exactly if no name is given two values.

*What is load-bearing.*  "Is the union" is said through look-ups alone.  Since a look-up has
at most one answer, bindings whose answers are those of all entries together exist only if the
entries agree, so that one equivalence (`bindAll?_eq_some_iff`) says both what the result is
and that there was no disagreement.  Merging a list of maps is binding all their entries
(`mergeAll?_eq_bindAll?`), and takes its laws from there.
-/

namespace Gatehouse

namespace NameMap

variable {α : Type u}

/-- An entry of a sorted list is the only one of its name. -/
theorem lookup_eq_some_of_mem {es : List (String × α)}
    (sorted : es.Pairwise (fun a b => a.1 < b.1)) {name : String} {value : α}
    (mem : (name, value) ∈ es) : lookup name es = some value := by
  induction es with
  | nil => cases mem
  | cons e es ih =>
    rw [List.pairwise_cons] at sorted
    rw [lookup_cons]
    rcases List.mem_cons.mp mem with rfl | behind
    · exact if_pos rfl
    · have earlier : e.1 < name := sorted.1 (name, value) behind
      rw [if_neg (String.ne_of_lt earlier)]
      exact ih sorted.2 behind

/-- **The entries of a map are its answers.** -/
theorem mem_entries_iff {m : NameMap α} {name : String} {value : α} :
    (name, value) ∈ m.entries ↔ m.get? name = some value :=
  ⟨lookup_eq_some_of_mem m.sorted, mem_of_lookup⟩

/-- Maps are the same if every answer of the one is an answer of the other. -/
theorem eq_iff_get?_eq_some {m n : NameMap α} :
    m = n ↔ ∀ name value, m.get? name = some value ↔ n.get? name = some value := by
  constructor
  · rintro rfl name value
    exact Iff.rfl
  · intro same
    apply ext
    intro name
    exact Option.ext (same name)

end NameMap

namespace Bindings

/-- **Two maps agree** on the names that they share. -/
def Agree (a b : Bindings) : Prop :=
  ∀ name x y, a.get? name = some x → b.get? name = some y → x = y

/-- A name is given a value by the bindings so far, or by an entry that is to be added. -/
def Given (bindings : Bindings) (entries : List (String × String)) (name value : String) : Prop :=
  bindings.get? name = some value ∨ (name, value) ∈ entries

variable {bindings more : Bindings}

/-! ## Entry by entry -/

/-- Bindings within others have no value of their own for a name. -/
theorem Within.agrees (within : Within bindings more) {name value : String}
    (bound : more.get? name = some value) :
    ∀ before, bindings.get? name = some before → before = value := by
  intro before found
  have kept : more.get? name = some before := within name before found
  rw [bound] at kept
  exact (Option.some.inj kept).symm

/-- An entry that nothing disagrees with is put in beside what is there. -/
theorem get?_insert_iff_given {name value : String}
    (agrees : ∀ bound, bindings.get? name = some bound → bound = value) (other found : String) :
    (bindings.insert name value).get? other = some found ↔
      bindings.Given [(name, value)] other found := by
  rw [Given, List.mem_singleton, Prod.mk.injEq, NameMap.get?_insert]
  by_cases here : name = other
  · subst here
    rw [if_pos rfl, Option.some_inj]
    constructor
    · intro same
      exact Or.inr ⟨rfl, same.symm⟩
    · rintro (before | ⟨-, same⟩)
      · exact (agrees found before).symm
      · exact same.symm
  · rw [if_neg here]
    constructor
    · exact Or.inl
    · rintro (before | ⟨same, -⟩)
      · exact before
      · exact absurd same.symm here

/-- Binding one name gives the union with one entry. -/
theorem bind?_eq_some_iff_given {name value : String} :
    bindings.bind? name value = some more ↔
      ∀ other found, more.get? other = some found ↔
        bindings.Given [(name, value)] other found := by
  rw [bind?_eq_some_iff]
  constructor
  · rintro ⟨agrees, rfl⟩
    exact get?_insert_iff_given agrees
  · intro union
    have bound : more.get? name = some value := (union name value).mpr (Or.inr (by simp))
    have within : Within bindings more := fun other found h => (union other found).mpr (Or.inl h)
    have agrees := within.agrees bound
    refine ⟨agrees, NameMap.eq_iff_get?_eq_some.mpr fun other found => ?_⟩
    exact (union other found).trans (get?_insert_iff_given agrees other found).symm

/-- What is given by an entry and by more entries behind it. -/
theorem given_cons {next : Bindings} {e : String × String} {entries : List (String × String)}
    (first : ∀ name value, next.get? name = some value ↔ bindings.Given [e] name value)
    (name value : String) :
    next.Given entries name value ↔ bindings.Given (e :: entries) name value := by
  rw [Given, Given, first, Given, List.mem_singleton, List.mem_cons, or_assoc]

/-- **Binding all entries gives the union**, and fails where there is none. -/
theorem bindAll?_eq_some_iff {entries : List (String × String)} :
    bindings.bindAll? entries = some more ↔
      ∀ name value, more.get? name = some value ↔ bindings.Given entries name value := by
  induction entries generalizing bindings with
  | nil =>
    rw [bindAll?_nil, Option.some_inj, eq_comm, NameMap.eq_iff_get?_eq_some]
    simp only [Given, List.not_mem_nil, or_false]
  | cons e entries ih =>
    rw [bindAll?_cons, Option.bind_eq_some_iff]
    constructor
    · rintro ⟨next, bound, rest⟩ name value
      have first := bind?_eq_some_iff_given.mp bound
      rw [ih.mp rest name value, given_cons first]
    · intro union
      have bound : more.get? e.1 = some e.2 := (union e.1 e.2).mpr (Or.inr List.mem_cons_self)
      have within : Within bindings more := fun name value h => (union name value).mpr (Or.inl h)
      have first := get?_insert_iff_given (within.agrees bound)
      refine ⟨_, bind?_eq_some_iff_given.mpr first, ih.mpr fun name value => ?_⟩
      rw [union, given_cons first]

/-- **There is a union as soon as no name is given two values.** -/
theorem exists_bindAll? {entries : List (String × String)}
    (consistent : ∀ name x y, bindings.Given entries name x → bindings.Given entries name y →
      x = y) : ∃ union, bindings.bindAll? entries = some union := by
  induction entries generalizing bindings with
  | nil => exact ⟨bindings, rfl⟩
  | cons e entries ih =>
    have agrees : ∀ before, bindings.get? e.1 = some before → before = e.2 := fun before found =>
      consistent e.1 before e.2 (Or.inl found) (Or.inr List.mem_cons_self)
    have first := get?_insert_iff_given agrees
    obtain ⟨union, rest⟩ := ih fun name x y givenX givenY =>
      consistent name x y ((given_cons first name x).mp givenX)
        ((given_cons first name y).mp givenY)
    refine ⟨union, ?_⟩
    rw [bindAll?_cons, bind?_eq_some_iff_given.mpr first]
    exact rest

/-! ## Map by map -/

/-- The entries of a map are all that it adds. -/
theorem given_entries_iff {name value : String} :
    bindings.Given more.entries name value ↔
      bindings.get? name = some value ∨ more.get? name = some value := by
  rw [Given, NameMap.mem_entries_iff]

/-- **Merging two maps gives their union**, and fails where there is none. -/
theorem merge?_eq_some_iff {merged : Bindings} :
    bindings.merge? more = some merged ↔
      ∀ name value, merged.get? name = some value ↔
        bindings.get? name = some value ∨ more.get? name = some value := by
  unfold merge?
  rw [bindAll?_eq_some_iff]
  simp only [given_entries_iff]

/-- **Two maps can be merged exactly if they agree.** -/
theorem isSome_merge?_iff : (bindings.merge? more).isSome ↔ Agree bindings more := by
  rw [Option.isSome_iff_exists]
  constructor
  · rintro ⟨merged, merge⟩ name x y here there
    have union := merge?_eq_some_iff.mp merge
    have first : merged.get? name = some x := (union name x).mpr (Or.inl here)
    have second : merged.get? name = some y := (union name y).mpr (Or.inr there)
    exact Option.some.inj (first.symm.trans second)
  · intro agree
    apply exists_bindAll?
    intro name x y givenX givenY
    rcases given_entries_iff.mp givenX with hereX | thereX
    · rcases given_entries_iff.mp givenY with hereY | thereY
      · exact Option.some.inj (hereX.symm.trans hereY)
      · exact agree name x y hereX thereY
    · rcases given_entries_iff.mp givenY with hereY | thereY
      · exact (agree name y x hereY thereX).symm
      · exact Option.some.inj (thereX.symm.trans thereY)

/-- Merging maps is binding their entries. -/
theorem mergeAll?_eq_bindAll? (bindings : Bindings) (others : List Bindings) :
    bindings.mergeAll? others = bindings.bindAll? (others.flatMap (·.entries)) := by
  induction others generalizing bindings with
  | nil => rfl
  | cons first others ih =>
    have inTwo : bindings.bindAll? (first.entries ++ others.flatMap (·.entries)) =
        (bindings.bindAll? first.entries).bind (·.bindAll? (others.flatMap (·.entries))) :=
      List.foldlM_append
    rw [mergeAll?_cons, List.flatMap_cons, inTwo]
    exact congrArg _ (funext ih)

/-- Starting from nothing, the entries of the maps are all that is given. -/
theorem given_empty_iff {others : List Bindings} {name value : String} :
    Given .empty (others.flatMap (·.entries)) name value ↔
      ∃ map ∈ others, map.get? name = some value := by
  rw [Given, NameMap.get?_empty, List.mem_flatMap]
  simp only [reduceCtorEq, false_or, NameMap.mem_entries_iff]

/-- **Merging maps gives their union**, and fails where there is none. -/
theorem mergeAll?_eq_some_iff {others : List Bindings} :
    mergeAll? .empty others = some more ↔
      ∀ name value, more.get? name = some value ↔ ∃ map ∈ others, map.get? name = some value := by
  rw [mergeAll?_eq_bindAll?, bindAll?_eq_some_iff]
  simp only [given_empty_iff]

/-- **Maps can be merged exactly if any two of them agree.** -/
theorem isSome_mergeAll?_iff {others : List Bindings} :
    (mergeAll? .empty others).isSome ↔ ∀ a ∈ others, ∀ b ∈ others, Agree a b := by
  rw [Option.isSome_iff_exists]
  constructor
  · rintro ⟨union, merged⟩ a memA b memB name x y foundA foundB
    have givenA : union.get? name = some x :=
      (mergeAll?_eq_some_iff.mp merged name x).mpr ⟨a, memA, foundA⟩
    have givenB : union.get? name = some y :=
      (mergeAll?_eq_some_iff.mp merged name y).mpr ⟨b, memB, foundB⟩
    exact Option.some.inj (givenA.symm.trans givenB)
  · intro agree
    rw [mergeAll?_eq_bindAll?]
    apply exists_bindAll?
    intro name x y givenX givenY
    obtain ⟨a, memA, foundA⟩ := given_empty_iff.mp givenX
    obtain ⟨b, memB, foundB⟩ := given_empty_iff.mp givenY
    exact agree a memA b memB name x y foundA foundB

/-- **Neither order nor repetition matters** when maps are merged. -/
theorem mergeAll?_congr {maps others : List Bindings} (same : ∀ map, map ∈ maps ↔ map ∈ others) :
    mergeAll? .empty maps = mergeAll? .empty others := by
  apply Option.ext
  intro union
  rw [mergeAll?_eq_some_iff, mergeAll?_eq_some_iff]
  simp only [same]

end Bindings

end Gatehouse
