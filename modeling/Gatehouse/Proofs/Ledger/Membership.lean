import Gatehouse.Ledger

/-!
# What a ledger holds

No key stands in a ledger twice, so that looking a key up and looking through the entries
are the same (`get?_eq_some_iff`).  Whatever leaves entries out and adds none can therefore
only make look-ups fail: this is the law of `filter` and of `dropOldest`, and it is all that
a memo needs to know about how entries are evicted.
-/

namespace Gatehouse.Ledger

variable {κ : Type u} {α : Type v} [DecidableEq κ]

/-- Under distinct keys a look-up finds exactly what is there. -/
theorem lookup_eq_some_iff {es : List (κ × α)} (distinct : (es.map (·.1)).Nodup) {key : κ}
    {value : α} : lookup key es = some value ↔ (key, value) ∈ es := by
  induction es with
  | nil => simp
  | cons e es ih =>
    rw [List.map_cons, List.nodup_cons] at distinct
    rw [lookup_cons, List.mem_cons]
    by_cases here : e.1 = key
    · -- The key stands at the front, and so it cannot stand behind.
      have absent : (key, value) ∉ es := fun mem =>
        distinct.1 (here ▸ List.mem_map_of_mem mem)
      rw [if_pos here, Option.some_inj]
      constructor
      · intro eq
        exact Or.inl (Prod.ext here.symm eq.symm)
      · rintro (eq | mem)
        · rw [← eq]
        · exact absurd mem absent
    · rw [if_neg here, ih distinct.2]
      constructor
      · exact Or.inr
      · rintro (eq | mem)
        · exact absurd (congrArg Prod.fst eq).symm here
        · exact mem

/-- **Looking up is membership.** -/
theorem get?_eq_some_iff {l : Ledger κ α} {key : κ} {value : α} :
    l.get? key = some value ↔ (key, value) ∈ l.entries :=
  lookup_eq_some_iff l.distinct

/-- A ledger with fewer entries has no answers of its own. -/
theorem get?_of_sublist {l m : Ledger κ α} (sub : l.entries.Sublist m.entries) {key : κ}
    {value : α} (h : l.get? key = some value) : m.get? key = some value :=
  get?_eq_some_iff.mpr (sub.subset (get?_eq_some_iff.mp h))

theorem get?_of_get?_filter {l : Ledger κ α} {keep : κ × α → Bool} {key : κ} {value : α}
    (h : (l.filter keep).get? key = some value) : l.get? key = some value :=
  get?_of_sublist List.filter_sublist h

theorem get?_of_get?_dropOldest {l : Ledger κ α} {count : Nat} {key : κ} {value : α}
    (h : (l.dropOldest count).get? key = some value) : l.get? key = some value :=
  get?_of_sublist (List.drop_sublist count l.entries) h

/-! ## Keys -/

omit [DecidableEq κ] in
theorem length_keys (l : Ledger κ α) : l.keys.length = l.size := List.length_map _

/-- A key that stands in the ledger is found. -/
theorem mem_keys_iff {l : Ledger κ α} {key : κ} :
    key ∈ l.keys ↔ ∃ value, l.get? key = some value := by
  constructor
  · intro mem
    obtain ⟨⟨_, value⟩, stands, rfl⟩ := List.mem_map.mp mem
    exact ⟨value, get?_eq_some_iff.mpr stands⟩
  · rintro ⟨value, found⟩
    exact List.mem_map_of_mem (get?_eq_some_iff.mp found)

/-- What is left after dropping the oldest is found as before. -/
theorem get?_dropOldest (l : Ledger κ α) (count : Nat) (key : κ) :
    (l.dropOldest count).get? key = if key ∈ l.keys.drop count then l.get? key else none := by
  have left : (l.dropOldest count).keys = l.keys.drop count := List.map_drop
  rw [← left]
  split
  · rename_i mem
    obtain ⟨value, found⟩ := mem_keys_iff.mp mem
    rw [found, get?_of_get?_dropOldest found]
  · rename_i gone
    exact lookup_eq_none_iff.mpr gone

omit [DecidableEq κ] in
theorem filter_eq_self {l : Ledger κ α} {keep : κ × α → Bool}
    (all : ∀ e ∈ l.entries, keep e = true) : l.filter keep = l := by
  obtain ⟨entries, distinct⟩ := l
  have same : entries.filter keep = entries := List.filter_eq_self.mpr all
  simp only [filter, same]

theorem keys_renew (l : Ledger κ α) (key : κ) (value : α) :
    (l.renew key value).keys = (l.erase key).keys ++ [key] := by
  simp [renew, keys]

theorem size_renew (l : Ledger κ α) (key : κ) (value : α) :
    (l.renew key value).size = (l.erase key).size + 1 :=
  List.length_append

theorem size_erase_le (l : Ledger κ α) (key : κ) : (l.erase key).size ≤ l.size :=
  List.length_filter_le _ _

/-- A key that is there frees a place. -/
theorem size_erase_lt {l : Ledger κ α} {key : κ} (mem : key ∈ l.keys) :
    (l.erase key).size < l.size := by
  obtain ⟨e, stands, rfl⟩ := List.mem_map.mp mem
  exact List.length_filter_lt_length_iff_exists.mpr ⟨e, stands, by simp⟩

end Gatehouse.Ledger
