/-!
# Maps keyed by name

Bindings, installed policies, roles and environments are all finite maps from
names to something, and two of their uses shape the representation.

* Bindings are compared: a grant is the same grant only if its variables are the
  same.  So equal maps have to be equal values, and `NameMap` keeps its entries
  in one canonical order, by name, with the order as a field of the type.
  `NameMap.ext` is the payoff: a map is determined by its answers.
* Names are listed in order, which is then reading the entries off.

Names are ordered by code point, the order of `String`.
-/

namespace Gatehouse

/-- A finite map from names, its entries ordered by name. -/
structure NameMap (α : Type u) where
  /-- The entries, ascending and without repetition of a name. -/
  entries : List (String × α)
  sorted : entries.Pairwise (fun a b => a.1 < b.1)
  deriving DecidableEq

namespace NameMap

variable {α : Type u}

/-- The map without entries. -/
def empty : NameMap α := ⟨[], List.Pairwise.nil⟩

instance : Inhabited (NameMap α) := ⟨empty⟩

/-- Of two names one comes first, or they are the same. -/
theorem name_trichotomy (a b : String) : a < b ∨ a = b ∨ b < a := by
  by_cases hab : a < b
  · exact Or.inl hab
  · by_cases hba : b < a
    · exact Or.inr (Or.inr hba)
    · exact Or.inr (Or.inl (String.le_antisymm (String.not_lt.mp hba) (String.not_lt.mp hab)))

/-! ## Looking up -/

/-- The value under `name` in a list of entries. -/
def lookup (name : String) : List (String × α) → Option α
  | [] => none
  | e :: es => if e.1 = name then some e.2 else lookup name es

@[simp] theorem lookup_nil (name : String) : lookup name ([] : List (String × α)) = none := rfl

theorem lookup_cons (name : String) (e : String × α) (es : List (String × α)) :
    lookup name (e :: es) = if e.1 = name then some e.2 else lookup name es := rfl

/-- The value that the map has under `name`. -/
def get? (m : NameMap α) (name : String) : Option α := lookup name m.entries

/-- The map has something under `name`. -/
def contains (m : NameMap α) (name : String) : Bool := (m.get? name).isSome

/-- The names in order. -/
def names (m : NameMap α) : List String := m.entries.map (·.1)

/-- How many names the map has. -/
def size (m : NameMap α) : Nat := m.entries.length

/-- The map has no entries. -/
def isEmpty (m : NameMap α) : Bool := m.entries.isEmpty

@[simp] theorem get?_empty (name : String) : (empty : NameMap α).get? name = none := rfl

/-- A name smaller than every name of the list is not in it. -/
theorem lookup_eq_none_of_lt {name : String} {es : List (String × α)}
    (h : ∀ e ∈ es, name < e.1) : lookup name es = none := by
  induction es with
  | nil => rfl
  | cons e es ih =>
    have ne : e.1 ≠ name := fun eq => String.lt_irrefl name (eq ▸ h e List.mem_cons_self)
    rw [lookup_cons, if_neg ne]
    exact ih fun x hx => h x (List.mem_cons_of_mem _ hx)

/-- Sorted lists of entries with the same answers are the same list. -/
theorem entries_ext {es fs : List (String × α)}
    (hes : es.Pairwise (fun a b => a.1 < b.1)) (hfs : fs.Pairwise (fun a b => a.1 < b.1))
    (h : ∀ name, lookup name es = lookup name fs) : es = fs := by
  induction es generalizing fs with
  | nil =>
    cases fs with
    | nil => rfl
    | cons f fs => simpa [lookup_cons] using h f.1
  | cons e es ih =>
    cases fs with
    | nil => simpa [lookup_cons] using h e.1
    | cons f fs =>
      rw [List.pairwise_cons] at hes hfs
      have heads : e.1 = f.1 := by
        rcases name_trichotomy e.1 f.1 with lt | eq | gt
        · have := h e.1
          rw [lookup_cons, if_pos rfl, lookup_cons, if_neg (fun eq => String.ne_of_lt lt eq.symm),
            lookup_eq_none_of_lt (fun x hx => String.lt_trans lt (hfs.1 x hx))] at this
          cases this
        · exact eq
        · have := h f.1
          rw [lookup_cons, if_neg (fun eq => String.ne_of_lt gt eq.symm),
            lookup_eq_none_of_lt (fun x hx => String.lt_trans gt (hes.1 x hx)),
            lookup_cons, if_pos rfl] at this
          cases this
      have values : e.2 = f.2 := by
        have := h e.1
        rw [lookup_cons, if_pos rfl, lookup_cons, if_pos heads.symm] at this
        exact Option.some.inj this
      have tails : es = fs := by
        refine ih hes.2 hfs.2 fun name => ?_
        by_cases hn : e.1 = name
        · subst hn
          rw [lookup_eq_none_of_lt hes.1, lookup_eq_none_of_lt (heads ▸ hfs.1)]
        · have := h name
          rwa [lookup_cons, if_neg hn, lookup_cons, if_neg (heads ▸ hn)] at this
      rw [tails, Prod.ext heads values]

/-- **A map is determined by its answers.** -/
theorem ext {m n : NameMap α} (h : ∀ name, m.get? name = n.get? name) : m = n := by
  obtain ⟨es, hes⟩ := m
  obtain ⟨fs, hfs⟩ := n
  simp only [mk.injEq]
  exact entries_ext hes hfs h

/-! ## Putting in -/

/-- Put an entry at its place in a sorted list, over an entry of the same name. -/
def place (name : String) (value : α) : List (String × α) → List (String × α)
  | [] => [(name, value)]
  | e :: es =>
    if name < e.1 then (name, value) :: e :: es
    else if e.1 = name then (name, value) :: es
    else e :: place name value es

theorem fst_of_mem_place {name : String} {value : α} {es : List (String × α)} {x : String × α}
    (h : x ∈ place name value es) : x.1 = name ∨ x ∈ es := by
  induction es with
  | nil => simp_all [place]
  | cons e es ih =>
    simp only [place] at h
    split at h
    · rcases List.mem_cons.mp h with rfl | h
      · exact Or.inl rfl
      · exact Or.inr h
    · split at h
      · rcases List.mem_cons.mp h with rfl | h
        · exact Or.inl rfl
        · exact Or.inr (List.mem_cons_of_mem _ h)
      · rcases List.mem_cons.mp h with rfl | h
        · exact Or.inr List.mem_cons_self
        · exact (ih h).imp id (List.mem_cons_of_mem _)

theorem place_sorted {name : String} {value : α} {es : List (String × α)}
    (h : es.Pairwise (fun a b => a.1 < b.1)) :
    (place name value es).Pairwise (fun a b => a.1 < b.1) := by
  induction es with
  | nil => simp [place]
  | cons e es ih =>
    rw [List.pairwise_cons] at h
    simp only [place]
    split
    · rename_i lt
      refine List.pairwise_cons.mpr ⟨fun x hx => ?_, List.pairwise_cons.mpr h⟩
      rcases List.mem_cons.mp hx with rfl | hx
      · exact lt
      · exact String.lt_trans lt (h.1 x hx)
    · rename_i nlt
      split
      · rename_i eq
        exact List.pairwise_cons.mpr ⟨fun x hx => by simpa [← eq] using h.1 x hx, h.2⟩
      · rename_i ne
        refine List.pairwise_cons.mpr ⟨fun x hx => ?_, ih h.2⟩
        rcases fst_of_mem_place hx with eq | hx
        · rw [eq]
          rcases name_trichotomy e.1 name with lt | eq | gt
          · exact lt
          · exact absurd eq ne
          · exact absurd gt nlt
        · exact h.1 x hx

theorem lookup_place {name : String} {value : α} {es : List (String × α)}
    (h : es.Pairwise (fun a b => a.1 < b.1)) (other : String) :
    lookup other (place name value es) = if name = other then some value else lookup other es := by
  induction es with
  | nil => simp [place, lookup_cons]
  | cons e es ih =>
    rw [List.pairwise_cons] at h
    simp only [place]
    split
    · simp [lookup_cons]
    · split
      · rename_i eq
        simp only [lookup_cons, eq]
        split <;> rfl
      · rename_i ne
        simp only [lookup_cons, ih h.2]
        by_cases ho : e.1 = other
        · rw [if_pos ho, if_pos ho, if_neg (fun eq => ne (ho.trans eq.symm))]
        · rw [if_neg ho, if_neg ho]

/-- The map with `value` under `name`, whatever was there before. -/
def insert (m : NameMap α) (name : String) (value : α) : NameMap α :=
  ⟨place name value m.entries, place_sorted m.sorted⟩

theorem get?_insert (m : NameMap α) (name : String) (value : α) (other : String) :
    (m.insert name value).get? other = if name = other then some value else m.get? other :=
  lookup_place m.sorted other

@[simp] theorem get?_insert_self (m : NameMap α) (name : String) (value : α) :
    (m.insert name value).get? name = some value := by
  rw [get?_insert, if_pos rfl]

/-- The map of a list of entries, a later entry replacing an earlier one of the
same name. -/
def ofList (es : List (String × α)) : NameMap α :=
  es.foldl (fun m e => m.insert e.1 e.2) empty

end NameMap

end Gatehouse
