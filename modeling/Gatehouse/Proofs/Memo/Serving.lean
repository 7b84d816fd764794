import Gatehouse.Memo
import Gatehouse.Proofs.Ledger.Membership

/-!
# What a memo serves

Seen from outside, a memo is a partial map: `get?` says what it would serve for a key.  This
module says what each operation does to that map, and nothing else about the operations is
used later.

* Invalidation makes keys unserved, and those alone that it is about (`get?_invalidate`,
  `get?_invalidateAll`).
* A use changes nothing (`get?_touch`), and making room takes entries away without adding
  any (`entry_of_entry_makeRoom`).  Neither recency nor capacity nor batch appears.
* An insertion serves what was inserted, if the mark is the present one (`get?_insert_self`),
  and nothing else that had not been served before (`get?_of_get?_insert`).
-/

namespace Gatehouse.Memo

variable {κ : Type u} {α : Type v} [DecidableEq κ]

theorem isCurrent_iff {m : Memo κ α} {key : κ} {mark : Mark} :
    m.isCurrent key mark = true ↔ m.mark key = mark := beq_iff_eq

theorem isCurrent_mark (m : Memo κ α) (key : κ) : m.isCurrent key (m.mark key) = true :=
  isCurrent_iff.mpr rfl

/-- A result is served if it is kept under the present mark of its key. -/
theorem get?_eq_some_iff {m : Memo κ α} {key : κ} {value : α} :
    m.get? key = some value ↔ m.entries.get? key = some ⟨m.mark key, value⟩ := by
  unfold get? isCurrent
  cases m.entries.get? key with
  | none => simp
  | some kept =>
    obtain ⟨mark, result⟩ := kept
    by_cases current : m.mark key = mark
    · simp [current]
    · have stale : ¬ mark = m.mark key := fun eq => current eq.symm
      simp [current, stale]

/-- The map depends on the marks and the entries alone. -/
theorem get?_congr {m n : Memo κ α} {key : κ} (mark : n.mark key = m.mark key)
    (entry : n.entries.get? key = m.entries.get? key) : n.get? key = m.get? key := by
  apply Option.ext
  intro value
  rw [get?_eq_some_iff, get?_eq_some_iff, mark, entry]

@[simp] theorem get?_empty (capacity batch : Nat) (key : κ) :
    (empty capacity batch : Memo κ α).get? key = none := rfl

/-! ## Use -/

/-- A look-up finds what is served. -/
theorem fetch_fst (m : Memo κ α) (key : κ) : (m.fetch key).1 = m.get? key := rfl

/-- What cannot be served is not used. -/
theorem touch_of_get?_eq_none {m : Memo κ α} {key : κ} (h : m.get? key = none) :
    m.touch key = m := by
  unfold get? at h
  unfold touch
  split at h
  · split at h
    · cases h
    · rename_i stale
      exact if_neg stale
  · rfl

/-- The use of a key moves its entry to the end. -/
theorem touch_of_get?_eq_some {m : Memo κ α} {key : κ} {value : α} (h : m.get? key = some value) :
    m.touch key = { m with entries := m.entries.renew key ⟨m.mark key, value⟩ } := by
  unfold touch
  rw [get?_eq_some_iff.mp h]
  exact if_pos (m.isCurrent_mark key)

@[simp] theorem get?_touch (m : Memo κ α) (key other : κ) :
    (m.touch key).get? other = m.get? other := by
  cases found : m.get? key with
  | none => rw [touch_of_get?_eq_none found]
  | some value =>
    refine get?_congr (m.mark_touch key other) ?_
    rw [touch_of_get?_eq_some found]
    dsimp only
    rw [Ledger.get?_renew]
    split
    · rename_i same
      rw [← same, get?_eq_some_iff.mp found]
    · rfl

/-! ## Invalidation -/

theorem get?_invalidate (m : Memo κ α) (key other : κ) :
    (m.invalidate key).get? other = if key = other then none else m.get? other := by
  have entry : (m.invalidate key).entries.get? other =
      if key = other then none else m.entries.get? other := m.entries.get?_erase key other
  by_cases same : key = other
  · rw [if_pos same] at entry ⊢
    simp [get?, entry]
  · rw [if_neg same] at entry ⊢
    exact get?_congr (by rw [mark_invalidate, if_neg same]) entry

@[simp] theorem get?_invalidateAll (m : Memo κ α) (key : κ) : m.invalidateAll.get? key = none :=
  rfl

/-! ## Insertion -/

/-- Making room adds no entries. -/
theorem entry_of_entry_makeRoom {m : Memo κ α} {key : κ} {kept : Kept α}
    (h : m.makeRoom.entries.get? key = some kept) : m.entries.get? key = some kept := by
  unfold makeRoom at h
  split at h
  · dsimp only at h
    split at h
    · exact Ledger.get?_of_get?_filter (Ledger.get?_of_get?_dropOldest h)
    · exact Ledger.get?_of_get?_filter h
  · exact h

/-- **What is inserted under the present mark is served.** -/
@[simp] theorem get?_insert_self (m : Memo κ α) (key : κ) (value : α) :
    (m.insert key (m.mark key) value).get? key = some value := by
  rw [get?_eq_some_iff, mark_insert]
  unfold insert
  rw [if_pos (m.isCurrent_mark key)]
  simp [Ledger.get?_renew]

/-- What is served after an insertion has been inserted, or has been served before. -/
theorem get?_of_get?_insert {m : Memo κ α} {key other : κ} {mark : Mark} {value found : α}
    (h : (m.insert key mark value).get? other = some found) :
    (key = other ∧ value = found) ∨ m.get? other = some found := by
  rw [get?_eq_some_iff, mark_insert] at h
  unfold insert at h
  split at h
  · simp only [Ledger.get?_renew] at h
    split at h
    · rename_i same
      exact Or.inl ⟨same, congrArg Kept.value (Option.some.inj h)⟩
    · exact Or.inr (get?_eq_some_iff.mpr (entry_of_entry_makeRoom h))
  · exact Or.inr (get?_eq_some_iff.mpr h)

end Gatehouse.Memo
