import Gatehouse.Bindings

/-!
# Bindings within bindings

Bindings grow while a path is matched and while the bindings of several patterns are merged,
and nothing that has been bound is ever lost or changed.  `Within` is this order.  All that is
said about the operations on bindings is said in terms of it:

* `bind?` gives the least bindings that have one more entry (`bind?_eq_some_iff`);
* `merge?` gives bindings that both maps are within (`within_of_merge?`), and `mergeAll?` ones
  that all maps of a list are within (`within_of_mergeAll?`).
-/

namespace Gatehouse

namespace NameMap

variable {α : Type u}

/-- What is found under a name is an entry. -/
theorem mem_of_lookup {name : String} {value : α} {es : List (String × α)}
    (h : lookup name es = some value) : (name, value) ∈ es := by
  induction es with
  | nil => cases h
  | cons e es ih =>
    rw [lookup_cons] at h
    split at h
    · rename_i here
      cases h
      exact List.mem_cons.mpr (Or.inl (Prod.ext here.symm rfl))
    · exact List.mem_cons_of_mem _ (ih h)

/-- Putting in what is there already changes nothing. -/
theorem insert_eq_self {m : NameMap α} {name : String} {value : α}
    (h : m.get? name = some value) : m.insert name value = m := by
  apply ext
  intro other
  rw [get?_insert]
  split
  · rename_i same
    rw [← same, h]
  · rfl

end NameMap

namespace Bindings

/-- **Every entry of the one map is an entry of the other.** -/
def Within (few many : Bindings) : Prop :=
  ∀ name value, few.get? name = some value → many.get? name = some value

theorem Within.refl (bindings : Bindings) : Within bindings bindings := fun _ _ => id

theorem Within.trans {few more many : Bindings} (first : Within few more)
    (second : Within more many) : Within few many :=
  fun name value bound => second name value (first name value bound)

theorem within_empty (bindings : Bindings) : Within .empty bindings := by
  intro name value bound
  cases bound

/-! ## One entry -/

/-- **A name takes a value** if it has no other one, and it is bound to it then. -/
theorem bind?_eq_some_iff {bindings more : Bindings} {name value : String} :
    bindings.bind? name value = some more ↔
      (∀ bound, bindings.get? name = some bound → bound = value) ∧
        more = bindings.insert name value := by
  cases found : bindings.get? name with
  | none =>
    rw [bind?_of_free found, Option.some_inj]
    exact ⟨fun eq => ⟨nofun, eq.symm⟩, fun h => h.2.symm⟩
  | some bound =>
    rw [bind?_of_bound found]
    by_cases same : bound = value
    · subst same
      rw [if_pos rfl, Option.some_inj, NameMap.insert_eq_self found]
      exact ⟨fun eq => ⟨fun other h => (Option.some.inj h).symm, eq.symm⟩, fun h => h.2.symm⟩
    · rw [if_neg same]
      constructor
      · intro h
        cases h
      · intro h
        exact absurd (h.1 bound rfl) same

theorem get?_of_bind? {bindings more : Bindings} {name value : String}
    (h : bindings.bind? name value = some more) : more.get? name = some value := by
  rw [(bind?_eq_some_iff.mp h).2, NameMap.get?_insert_self]

theorem within_of_bind? {bindings more : Bindings} {name value : String}
    (h : bindings.bind? name value = some more) : Within bindings more := by
  obtain ⟨agrees, rfl⟩ := bind?_eq_some_iff.mp h
  intro other bound found
  rw [NameMap.get?_insert]
  split
  · rename_i same
    rw [agrees bound (same ▸ found)]
  · exact found

/-- With fewer entries fewer values are refused. -/
theorem bind?_mono {few many more : Bindings} {name value : String} (within : Within few many)
    (h : many.bind? name value = some more) :
    ∃ fewer, few.bind? name value = some fewer ∧ Within fewer more := by
  refine ⟨few.insert name value, bind?_eq_some_iff.mpr ⟨?_, rfl⟩, ?_⟩
  · intro bound found
    exact (bind?_eq_some_iff.mp h).1 bound (within name bound found)
  · intro other bound found
    rw [NameMap.get?_insert] at found
    split at found
    · rename_i same
      rw [← same, get?_of_bind? h, found]
    · exact within_of_bind? h other bound (within other bound found)

/-! ## Many entries -/

theorem within_of_bindAll? {entries : List (String × String)} {bindings more : Bindings}
    (h : bindings.bindAll? entries = some more) :
    Within bindings more ∧ ∀ e ∈ entries, more.get? e.1 = some e.2 := by
  induction entries generalizing bindings with
  | nil =>
    cases h
    exact ⟨.refl _, fun e mem => absurd mem List.not_mem_nil⟩
  | cons e entries ih =>
    rw [bindAll?_cons, Option.bind_eq_some_iff] at h
    obtain ⟨next, bound, rest⟩ := h
    obtain ⟨within, entered⟩ := ih rest
    refine ⟨(within_of_bind? bound).trans within, fun other mem => ?_⟩
    rcases List.mem_cons.mp mem with rfl | mem
    · exact within _ _ (get?_of_bind? bound)
    · exact entered other mem

/-- Both maps are within the merged one. -/
theorem within_of_merge? {bindings more merged : Bindings}
    (h : bindings.merge? more = some merged) : Within bindings merged ∧ Within more merged := by
  obtain ⟨within, entered⟩ := within_of_bindAll? h
  exact ⟨within, fun name value found => entered (name, value) (NameMap.mem_of_lookup found)⟩

/-- **All maps of a list are within the merged one.** -/
theorem within_of_mergeAll? {others : List Bindings} {bindings merged : Bindings}
    (h : bindings.mergeAll? others = some merged) :
    Within bindings merged ∧ ∀ more ∈ others, Within more merged := by
  induction others generalizing bindings with
  | nil =>
    cases h
    exact ⟨.refl _, fun more mem => absurd mem List.not_mem_nil⟩
  | cons first others ih =>
    rw [mergeAll?_cons, Option.bind_eq_some_iff] at h
    obtain ⟨next, merge, rest⟩ := h
    obtain ⟨before, added⟩ := within_of_merge? merge
    obtain ⟨within, all⟩ := ih rest
    refine ⟨before.trans within, fun more mem => ?_⟩
    rcases List.mem_cons.mp mem with rfl | mem
    · exact added.trans within
    · exact all more mem

end Bindings

end Gatehouse
