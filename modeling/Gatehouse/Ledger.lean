/-!
# Ledgers

A ledger is a finite map whose entries stay in the order in which they were
written.  Where the order of a map shows, or where it carries information, this
is the container: subjects appear in the order of their first grant, and the
memo of resolved policies keeps its entries in the order of their last use.

There are two ways to write.  `set` replaces the value of a key at its place and
appends a key that is new; `renew` moves the key to the end as well.  Both say
the same about look-ups (`get?_set`, `get?_renew`).
-/

namespace Gatehouse

/-- A finite map from `κ`, in the order of writing. -/
structure Ledger (κ : Type u) (α : Type v) where
  /-- The entries, oldest first, no key twice. -/
  entries : List (κ × α)
  distinct : (entries.map (·.1)).Nodup

namespace Ledger

variable {κ : Type u} {α : Type v}

/-- The ledger without entries. -/
def empty : Ledger κ α := ⟨[], List.nodup_nil⟩

instance : Inhabited (Ledger κ α) := ⟨empty⟩

/-- How many keys the ledger has. -/
def size (l : Ledger κ α) : Nat := l.entries.length

/-- The keys, oldest first. -/
def keys (l : Ledger κ α) : List κ := l.entries.map (·.1)

/-- The entries of the keys that satisfy `keep`. -/
def filter (l : Ledger κ α) (keep : κ × α → Bool) : Ledger κ α :=
  ⟨l.entries.filter keep, l.distinct.sublist (List.filter_sublist.map _)⟩

/-- The ledger without its `count` oldest entries. -/
def dropOldest (l : Ledger κ α) (count : Nat) : Ledger κ α :=
  ⟨l.entries.drop count, l.distinct.sublist ((List.drop_sublist count _).map _)⟩

variable [DecidableEq κ]

/-! ## Looking up -/

/-- The value under `key` in a list of entries. -/
def lookup (key : κ) : List (κ × α) → Option α
  | [] => none
  | e :: es => if e.1 = key then some e.2 else lookup key es

@[simp] theorem lookup_nil (key : κ) : lookup key ([] : List (κ × α)) = none := rfl

theorem lookup_cons (key : κ) (e : κ × α) (es : List (κ × α)) :
    lookup key (e :: es) = if e.1 = key then some e.2 else lookup key es := rfl

/-- The value that the ledger has under `key`. -/
def get? (l : Ledger κ α) (key : κ) : Option α := lookup key l.entries

theorem lookup_append (key : κ) (es fs : List (κ × α)) :
    lookup key (es ++ fs) = (lookup key es).or (lookup key fs) := by
  induction es with
  | nil => simp
  | cons e es ih =>
    rw [List.cons_append, lookup_cons, lookup_cons]
    split <;> simp [ih]

theorem lookup_eq_none_iff {key : κ} {es : List (κ × α)} :
    lookup key es = none ↔ key ∉ es.map (·.1) := by
  induction es with
  | nil => simp
  | cons e es ih =>
    rw [lookup_cons]
    by_cases h : e.1 = key
    · simp [h]
    · simp only [h, if_false, ih, List.map_cons, List.mem_cons, not_or]
      exact ⟨fun hn => ⟨fun eq => h eq.symm, hn⟩, fun hn => hn.2⟩

/-! ## Writing -/

/-- Replace the value of the entries under `key`. -/
def replace (key : κ) (value : α) (es : List (κ × α)) : List (κ × α) :=
  es.map fun e => if e.1 = key then (e.1, value) else e

theorem replace_keys (key : κ) (value : α) (es : List (κ × α)) :
    (replace key value es).map (·.1) = es.map (·.1) := by
  simp only [replace, List.map_map]
  apply List.map_congr_left
  intro e _
  simp only [Function.comp_apply]
  split <;> rfl

theorem lookup_replace (key : κ) (value : α) (es : List (κ × α)) (other : κ) :
    lookup other (replace key value es) =
      if key = other then (lookup key es).map (fun _ => value) else lookup other es := by
  induction es with
  | nil => simp [replace]
  | cons e es ih =>
    simp only [replace, List.map_cons] at ih ⊢
    rw [lookup_cons, ih, lookup_cons, lookup_cons]
    by_cases hk : e.1 = key
    · by_cases ho : key = other
      · simp [hk, ho]
      · simp [hk, ho]
    · by_cases ho : key = other
      · subst ho
        simp [hk]
      · rw [if_neg hk, if_neg ho, if_neg ho]

/-- The ledger with `value` under `key`.  A key that is there keeps its place, a
new one comes last. -/
def set (l : Ledger κ α) (key : κ) (value : α) : Ledger κ α :=
  if h : key ∈ l.entries.map (·.1) then
    ⟨replace key value l.entries, by rw [replace_keys]; exact l.distinct⟩
  else
    ⟨l.entries ++ [(key, value)], by
      rw [List.map_append, List.nodup_append]
      refine ⟨l.distinct, by simp, fun a ha b hb => ?_⟩
      rintro rfl
      simp only [List.map_cons, List.map_nil, List.mem_singleton] at hb
      exact h (hb ▸ ha)⟩

theorem get?_set (l : Ledger κ α) (key : κ) (value : α) (other : κ) :
    (l.set key value).get? other = if key = other then some value else l.get? other := by
  unfold set get?
  split
  · rename_i h
    simp only [lookup_replace]
    split
    · cases hl : lookup key l.entries with
      | none => exact absurd h (lookup_eq_none_iff.mp hl)
      | some v => rfl
    · rfl
  · rename_i h
    simp only [lookup_append, lookup_cons, lookup_nil]
    split
    · rename_i eq
      subst eq
      rw [lookup_eq_none_iff.mpr h]
      rfl
    · simp

/-- The ledger without `key`. -/
def erase (l : Ledger κ α) (key : κ) : Ledger κ α := l.filter fun e => e.1 ≠ key

theorem get?_erase (l : Ledger κ α) (key other : κ) :
    (l.erase key).get? other = if key = other then none else l.get? other := by
  unfold erase filter get?
  simp only
  induction l.entries with
  | nil => simp
  | cons e es ih =>
    by_cases hk : e.1 = key
    · rw [List.filter_cons_of_neg (by simp [hk]), ih, lookup_cons]
      by_cases ho : key = other
      · simp [ho]
      · simp [hk, ho]
    · rw [List.filter_cons_of_pos (by simp [hk]), lookup_cons, ih, lookup_cons]
      by_cases ho : key = other
      · subst ho
        simp [hk]
      · simp [ho]

theorem key_notMem_erase (l : Ledger κ α) (key : κ) :
    key ∉ (l.erase key).entries.map (·.1) := by
  simp [erase, filter]

/-- The ledger with `value` under `key`, which becomes the newest key. -/
def renew (l : Ledger κ α) (key : κ) (value : α) : Ledger κ α :=
  ⟨(l.erase key).entries ++ [(key, value)], by
    rw [List.map_append, List.nodup_append]
    refine ⟨(l.erase key).distinct, by simp, fun a ha b hb => ?_⟩
    rintro rfl
    simp only [List.map_cons, List.map_nil, List.mem_singleton] at hb
    exact l.key_notMem_erase key (hb ▸ ha)⟩

theorem get?_renew (l : Ledger κ α) (key : κ) (value : α) (other : κ) :
    (l.renew key value).get? other = if key = other then some value else l.get? other := by
  have he := l.get?_erase key other
  unfold get? at he ⊢
  simp only [renew, lookup_append, he, lookup_cons, lookup_nil]
  split <;> simp

end Ledger

end Gatehouse
