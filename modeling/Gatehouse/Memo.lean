import Gatehouse.Ledger

/-!
# Memos

A memo keeps results that are expensive to compute, under the keys that they were
computed for, and it has to be told when a result may have changed.

Computing takes time, and the world may change meanwhile.  So whoever computes a
result for a key first takes the `mark` of the key and hands it in together with the
result.  A mark says how often the key has been invalidated, alone and with all the
others.  `insert` compares the mark with the present one and lets a result go whose
key has been invalidated in between; marks are only ever compared for equality.

*Recency.*  The entries stand in the order of their last use, which is all that
eviction asks about time: `fetch` and `insert` move a key to the end, and room is
made at the front.

*Room.*  A memo of capacity zero has no limit.  Otherwise an insertion that finds the
memo full first drops entries that can no longer be served, and if that is not
enough, as many of the oldest as to fall `batch` short of the capacity.
-/

namespace Gatehouse

/-- How often a key has been invalidated. -/
structure Mark where
  /-- Together with all keys. -/
  epoch : Nat
  /-- By itself. -/
  count : Nat
  deriving DecidableEq, Repr

/-- A kept result. -/
structure Kept (α : Type v) where
  /-- The mark of the key when the result was computed. -/
  mark : Mark
  value : α

/-- Results under keys. -/
structure Memo (κ : Type u) (α : Type v) where
  /-- So many entries are kept at most; zero stands for no limit. -/
  capacity : Nat
  /-- So many places are freed at a time, and one at least. -/
  batch : Nat
  /-- How often everything has been invalidated. -/
  epoch : Nat
  /-- How often single keys have been invalidated. -/
  counts : Ledger κ Nat
  /-- The entries, the one that was used last at the end. -/
  entries : Ledger κ (Kept α)

namespace Memo

variable {κ : Type u} {α : Type v}

/-- A memo without entries. -/
def empty (capacity batch : Nat) : Memo κ α := ⟨capacity, batch, 0, .empty, .empty⟩

/-- A memo without entries that frees a tenth of its places at a time. -/
def ofCapacity (capacity : Nat) : Memo κ α := empty capacity (capacity / 10)

/-- How many results are kept. -/
def size (m : Memo κ α) : Nat := m.entries.size

/-- Nothing is kept. -/
def isEmpty (m : Memo κ α) : Bool := m.size == 0

/-- The memo has as many entries as it may have. -/
def isFull (m : Memo κ α) : Bool := m.capacity != 0 && decide (m.capacity ≤ m.size)

/-- How many entries are left when the oldest have been evicted. -/
def target (m : Memo κ α) : Nat := m.capacity - max m.batch 1

variable [DecidableEq κ]

/-- The present mark of a key. -/
def mark (m : Memo κ α) (key : κ) : Mark := ⟨m.epoch, (m.counts.get? key).getD 0⟩

/-- The key has not been invalidated since `mark` was taken. -/
def isCurrent (m : Memo κ α) (key : κ) (mark : Mark) : Bool := m.mark key == mark

/-! ## Looking up -/

/-- The result for a key, if it can be served. -/
def get? (m : Memo κ α) (key : κ) : Option α :=
  match m.entries.get? key with
  | some kept => if m.isCurrent key kept.mark then some kept.value else none
  | none => none

/-- The memo after a use of the key. -/
def touch (m : Memo κ α) (key : κ) : Memo κ α :=
  match m.entries.get? key with
  | some kept =>
    if m.isCurrent key kept.mark then { m with entries := m.entries.renew key kept } else m
  | none => m

/-- Look a key up, which is a use of it. -/
def fetch (m : Memo κ α) (key : κ) : Option α × Memo κ α := (m.get? key, m.touch key)

/-! ## Making room -/

/-- The memo without the entries that can no longer be served. -/
def sweep (m : Memo κ α) : Memo κ α :=
  { m with entries := m.entries.filter fun e => m.isCurrent e.1 e.2.mark }

/-- The memo without its oldest entries. -/
def evict (m : Memo κ α) : Memo κ α :=
  { m with entries := m.entries.dropOldest (m.size - m.target) }

/-- The memo with a place for one more entry. -/
def makeRoom (m : Memo κ α) : Memo κ α :=
  if m.isFull then
    let swept := m.sweep
    if swept.isFull then swept.evict else swept
  else m

/-! ## Writing -/

/-- Keep a result, unless its key has been invalidated since `mark` was taken. -/
def insert (m : Memo κ α) (key : κ) (mark : Mark) (value : α) : Memo κ α :=
  if m.isCurrent key mark then
    -- Room is made even if the key has an entry already.
    { m.makeRoom with entries := m.makeRoom.entries.renew key ⟨mark, value⟩ }
  else m

/-- The result for one key may have changed. -/
def invalidate (m : Memo κ α) (key : κ) : Memo κ α :=
  { m with
    counts := m.counts.set key ((m.counts.get? key).getD 0 + 1)
    entries := m.entries.erase key }

/-- The result for any key may have changed. -/
def invalidateAll (m : Memo κ α) : Memo κ α :=
  { m with epoch := m.epoch + 1, entries := .empty }

/-! ## What the operations do to marks -/

@[simp] theorem mark_touch (m : Memo κ α) (key other : κ) :
    (m.touch key).mark other = m.mark other := by
  unfold touch
  split
  · split <;> rfl
  · rfl

@[simp] theorem mark_makeRoom (m : Memo κ α) (key : κ) : m.makeRoom.mark key = m.mark key := by
  unfold makeRoom
  split
  · dsimp only
    split <;> rfl
  · rfl

@[simp] theorem mark_insert (m : Memo κ α) (key : κ) (mark : Mark) (value : α) (other : κ) :
    (m.insert key mark value).mark other = m.mark other := by
  unfold insert
  split
  · exact m.mark_makeRoom other
  · rfl

theorem mark_invalidate (m : Memo κ α) (key other : κ) :
    (m.invalidate key).mark other =
      if key = other then ⟨m.epoch, (m.mark key).count + 1⟩ else m.mark other := by
  unfold mark invalidate
  simp only [Ledger.get?_set]
  split <;> rfl

@[simp] theorem mark_invalidateAll (m : Memo κ α) (key : κ) :
    m.invalidateAll.mark key = ⟨m.epoch + 1, (m.mark key).count⟩ := rfl

end Memo

end Gatehouse
