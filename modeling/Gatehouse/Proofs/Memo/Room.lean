import Gatehouse.Proofs.Memo.Serving
import Mathlib.Data.Finset.Card
import Mathlib.Data.List.Induction

/-!
# Room in a memo

A memo with a capacity never has more entries than that, and when it needs room it lets those go
that have not been used for the longest time.  The memo knows no clock: its entries stand in the
order of their last use.  Here every operation is done at an instant, and `lastUse?` tells from
the operations when a key was used last, that is, when a result for it was accepted or found.

`Tidy` says what is true of a memo at all times: it can serve all that it keeps, it keeps no
more than it may, and the order of the entries is the order of the instants.  Each operation
either uses one key, which then stands last, or takes entries away, and so there are two
arguments for all of them (`Tidy.renewed`, `Tidy.thinned`).

### What is load-bearing

Sweeping before evicting is never of any use (`Tidy.sweep`): an entry is swept away if its key
has been invalidated, but then it is not there any more.  This is why the number of evicted
entries is known, and why keeping and serving are the same.

Room is made even for a key that has an entry, and this entry may be among the evicted ones.
-/

namespace Gatehouse.Memo

variable {κ : Type u} {α : Type v}

/-! ## Operations in time -/

/-- Something is done with a memo. -/
inductive Operation (κ : Type u) (α : Type v) where
  /-- Hand in a result, with whatever mark. -/
  | insert (key : κ) (mark : Mark) (value : α)
  | fetch (key : κ)
  | invalidate (key : κ)
  | invalidateAll

variable [DecidableEq κ]

/-- The memo after an operation. -/
def step (m : Memo κ α) : Operation κ α → Memo κ α
  | .insert key mark value => m.insert key mark value
  | .fetch key => (m.fetch key).2
  | .invalidate key => m.invalidate key
  | .invalidateAll => m.invalidateAll

/-- The memo after some operations, each of them at an instant. -/
def run (m : Memo κ α) (log : List (Nat × Operation κ α)) : Memo κ α :=
  log.foldl (fun m e => m.step e.2) m

theorem run_concat (m : Memo κ α) (log : List (Nat × Operation κ α)) (e : Nat × Operation κ α) :
    m.run (log ++ [e]) = (m.run log).step e.2 :=
  List.foldl_append

/-- **The operation uses a key**: a result for it is accepted or found. -/
def Operation.uses (m : Memo κ α) (key : κ) : Operation κ α → Bool
  | .insert other mark _ => m.isCurrent other mark && decide (other = key)
  | .fetch other => (m.get? other).isSome && decide (other = key)
  | .invalidate _ => false
  | .invalidateAll => false

/-- The instant at which a key was used last. -/
def lastUse? (m : Memo κ α) (key : κ) : List (Nat × Operation κ α) → Option Nat
  | [] => none
  | (instant, operation) :: log =>
    ((m.step operation).lastUse? key log).or
      (if operation.uses m key then some instant else none)

theorem lastUse?_concat (m : Memo κ α) (key : κ) (log : List (Nat × Operation κ α))
    (instant : Nat) (operation : Operation κ α) :
    m.lastUse? key (log ++ [(instant, operation)]) =
      if operation.uses (m.run log) key then some instant else m.lastUse? key log := by
  induction log generalizing m with
  | nil => rfl
  | cons first log ih =>
    rw [List.cons_append, lastUse?, ih, lastUse?]
    have same : m.run (first :: log) = (m.step first.2).run log := rfl
    rw [same]
    split <;> simp

/-- A key is used at an instant of the log. -/
theorem exists_of_lastUse? {m : Memo κ α} {key : κ} {log : List (Nat × Operation κ α)}
    {instant : Nat} (h : m.lastUse? key log = some instant) :
    ∃ operation, (instant, operation) ∈ log := by
  induction log generalizing m with
  | nil => cases h
  | cons first log ih =>
    rw [lastUse?, Option.or_eq_some_iff] at h
    rcases h with later | ⟨-, here⟩
    · obtain ⟨operation, mem⟩ := ih later
      exact ⟨operation, List.mem_cons_of_mem first mem⟩
    · obtain ⟨-, same⟩ := Option.ite_none_right_eq_some.mp here
      obtain rfl := Option.some.inj same
      exact ⟨first.2, List.mem_cons_self⟩

/-! ## Limits -/

theorem limits_makeRoom (m : Memo κ α) :
    m.makeRoom.capacity = m.capacity ∧ m.makeRoom.batch = m.batch := by
  unfold makeRoom
  split
  · dsimp only
    split <;> exact ⟨rfl, rfl⟩
  · exact ⟨rfl, rfl⟩

theorem limits_step (m : Memo κ α) (operation : Operation κ α) :
    (m.step operation).capacity = m.capacity ∧ (m.step operation).batch = m.batch := by
  cases operation with
  | insert key mark value =>
    unfold step insert
    dsimp only
    split
    · exact m.limits_makeRoom
    · exact ⟨rfl, rfl⟩
  | fetch key =>
    unfold step fetch
    dsimp only
    cases found : m.get? key with
    | none => rw [touch_of_get?_eq_none found]; exact ⟨rfl, rfl⟩
    | some value => rw [touch_of_get?_eq_some found]; exact ⟨rfl, rfl⟩
  | invalidate key => exact ⟨rfl, rfl⟩
  | invalidateAll => exact ⟨rfl, rfl⟩

/-- The limits of a memo never change. -/
theorem limits_run (m : Memo κ α) (log : List (Nat × Operation κ α)) :
    (m.run log).capacity = m.capacity ∧ (m.run log).batch = m.batch := by
  induction log generalizing m with
  | nil => exact ⟨rfl, rfl⟩
  | cons first log ih =>
    obtain ⟨capacity, batch⟩ := m.limits_step first.2
    obtain ⟨still, again⟩ := ih (m.step first.2)
    exact ⟨still.trans capacity, again.trans batch⟩

/-! ## The order of last use -/

/-- One key was used last before another one was. -/
def UsedBefore (lastUse : κ → Option Nat) (a b : κ) : Prop :=
  ∃ i j, lastUse a = some i ∧ lastUse b = some j ∧ i < j

omit [DecidableEq κ] in
theorem pairwise_usedBefore_concat {lastUse later : κ → Option Nat} {keys : List κ} {key : κ}
    {now : Nat} (used : ∀ other ∈ keys, ∃ i, lastUse other = some i)
    (order : keys.Pairwise (UsedBefore lastUse)) (fresh : key ∉ keys)
    (past : ∀ other i, lastUse other = some i → i < now)
    (new : later key = some now) (old : ∀ other, other ≠ key → later other = lastUse other) :
    (keys ++ [key]).Pairwise (UsedBefore later) := by
  have same : ∀ other ∈ keys, later other = lastUse other := fun other mem =>
    old other fun eq => fresh (eq ▸ mem)
  rw [List.pairwise_append]
  refine ⟨order.imp_of_mem fun ha hb before => ?_, List.pairwise_singleton _ _, ?_⟩
  · obtain ⟨i, j, atI, atJ, lt⟩ := before
    exact ⟨i, j, (same _ ha).trans atI, (same _ hb).trans atJ, lt⟩
  · intro other mem last isLast
    obtain rfl := List.mem_singleton.mp isLast
    obtain ⟨i, atI⟩ := used other mem
    exact ⟨i, now, (same other mem).trans atI, new, past other i atI⟩

/-! ## The invariant -/

/-- **A memo in order.** -/
structure Tidy (lastUse : κ → Option Nat) (m : Memo κ α) : Prop where
  /-- Whatever is kept can be served. -/
  current : ∀ e ∈ m.entries.entries, m.isCurrent e.1 e.2.mark = true
  room : m.size ≤ m.capacity
  /-- Whatever is kept has been used. -/
  used : ∀ key ∈ m.entries.keys, ∃ instant, lastUse key = some instant
  order : m.entries.keys.Pairwise (UsedBefore lastUse)

/-- So many entries have to go before a result is kept. -/
def evictions (m : Memo κ α) : Nat :=
  if m.size < m.capacity then 0 else min (max m.batch 1) m.capacity

omit [DecidableEq κ] in
theorem evictions_le (m : Memo κ α) : m.evictions ≤ m.size := by
  unfold evictions
  split <;> omega

namespace Tidy

variable {m n : Memo κ α} {lastUse later : κ → Option Nat}

/-- **What is kept is what is served.** -/
theorem mem_keys_iff (tidy : Tidy lastUse m) {key : κ} :
    key ∈ m.entries.keys ↔ (m.get? key).isSome := by
  rw [Ledger.mem_keys_iff, Option.isSome_iff_exists]
  constructor
  · rintro ⟨⟨mark, value⟩, found⟩
    have current : m.mark key = mark :=
      isCurrent_iff.mp (tidy.current _ (Ledger.get?_eq_some_iff.mp found))
    exact ⟨value, get?_eq_some_iff.mpr (current ▸ found)⟩
  · rintro ⟨value, found⟩
    exact ⟨_, get?_eq_some_iff.mp found⟩

/-! ### Making room -/

/-- There is nothing to sweep away. -/
theorem sweep (tidy : Tidy lastUse m) : m.sweep = m := by
  unfold Memo.sweep
  rw [Ledger.filter_eq_self tidy.current]

/-- **Room is made by dropping the oldest.** -/
theorem makeRoom (tidy : Tidy lastUse m) (limited : 0 < m.capacity) :
    m.makeRoom = { m with entries := m.entries.dropOldest m.evictions } := by
  have full : m.isFull = true ↔ m.capacity ≤ m.size := by
    simp [isFull, Nat.ne_of_gt limited]
  unfold Memo.makeRoom
  rw [tidy.sweep]
  split
  · rename_i isFull
    have enough := full.mp isFull
    have count : m.size - m.target = m.evictions := by
      have := tidy.room
      unfold evictions target
      split <;> omega
    dsimp only
    rw [if_pos isFull, evict, count]
  · rename_i notFull
    have few : m.size < m.capacity := Nat.lt_of_not_le (mt full.mpr notFull)
    unfold evictions
    rw [if_pos few]
    rfl

theorem entries_insert (tidy : Tidy lastUse m) (limited : 0 < m.capacity) {key : κ} {mark : Mark}
    (accepted : m.isCurrent key mark = true) (value : α) :
    (m.insert key mark value).entries =
      (m.entries.dropOldest m.evictions).renew key ⟨mark, value⟩ := by
  unfold insert
  rw [if_pos accepted, tidy.makeRoom limited]

/-- **What is served after a result has been accepted**: this result, and what has survived. -/
theorem get?_insert (tidy : Tidy lastUse m) (limited : 0 < m.capacity) (key : κ) (value : α)
    (other : κ) :
    (m.insert key (m.mark key) value).get? other =
      if other = key then some value
      else if other ∈ m.entries.keys.drop m.evictions then m.get? other else none := by
  have entry : (m.insert key (m.mark key) value).entries.get? other =
      if key = other then some ⟨m.mark key, value⟩
      else if other ∈ m.entries.keys.drop m.evictions then m.entries.get? other else none := by
    rw [tidy.entries_insert limited (m.isCurrent_mark key), Ledger.get?_renew,
      Ledger.get?_dropOldest]
  by_cases same : other = key
  · subst same
    rw [if_pos rfl]
    exact m.get?_insert_self other value
  · rw [if_neg (Ne.symm same)] at entry
    rw [if_neg same]
    split at entry
    · rename_i survives
      rw [if_pos survives]
      exact get?_congr (m.mark_insert key _ value other) entry
    · rename_i gone
      rw [if_neg gone, get?, entry]

/-- After dropping the oldest there is room for one more. -/
theorem size_dropOldest_lt (tidy : Tidy lastUse m) (limited : 0 < m.capacity) :
    (m.entries.dropOldest m.evictions).size < m.capacity := by
  have left : (m.entries.dropOldest m.evictions).size = m.size - m.evictions := List.length_drop
  have := tidy.room
  rw [left]
  unfold evictions
  split <;> omega

/-! ### One operation -/

/-- Taking entries away keeps a memo in order. -/
theorem thinned (tidy : Tidy lastUse m)
    (sub : n.entries.entries.Sublist m.entries.entries)
    (marks : ∀ e ∈ n.entries.entries, n.mark e.1 = m.mark e.1)
    (capacity : n.capacity = m.capacity) : Tidy lastUse n where
  current e mem := by
    rw [isCurrent_iff, marks e mem]
    exact isCurrent_iff.mp (tidy.current e (sub.subset mem))
  room := by
    rw [capacity]
    exact Nat.le_trans sub.length_le tidy.room
  used key mem := tidy.used key ((sub.map _).subset mem)
  order := tidy.order.sublist (sub.map _)

/-- **The use of a key keeps a memo in order**, if some entries are left and the key comes last. -/
theorem renewed (tidy : Tidy lastUse m) {left : Ledger κ (Kept α)} {key : κ} {value : α}
    {now : Nat} (sub : left.entries.Sublist m.entries.entries)
    (entries : n.entries = left.renew key ⟨m.mark key, value⟩)
    (marks : ∀ other, n.mark other = m.mark other) (room : n.size ≤ n.capacity)
    (past : ∀ other i, lastUse other = some i → i < now)
    (new : later key = some now) (old : ∀ other, other ≠ key → later other = lastUse other) :
    Tidy later n := by
  have keys : n.entries.keys = (left.erase key).keys ++ [key] := by
    rw [entries]
    exact left.keys_renew key _
  have erased : (left.erase key).entries.Sublist m.entries.entries :=
    List.filter_sublist.trans sub
  have subkeys : (left.erase key).keys.Sublist m.entries.keys := erased.map _
  have fresh : key ∉ (left.erase key).keys := left.key_notMem_erase key
  refine ⟨fun e mem => ?_, room, fun other mem => ?_, ?_⟩
  · rw [entries] at mem
    rw [isCurrent_iff, marks]
    rcases List.mem_append.mp mem with before | last
    · exact isCurrent_iff.mp (tidy.current e (erased.subset before))
    · obtain rfl := List.mem_singleton.mp last
      rfl
  · by_cases same : other = key
    · exact ⟨now, same ▸ new⟩
    · rw [old other same]
      rw [keys, List.mem_append, List.mem_singleton] at mem
      exact tidy.used other (subkeys.subset (mem.resolve_right same))
  · rw [keys]
    exact pairwise_usedBefore_concat (fun other mem => tidy.used other (subkeys.subset mem))
      (tidy.order.sublist subkeys) fresh past new old

/-- A result that is accepted is a use of its key. -/
theorem insert (tidy : Tidy lastUse m) (limited : 0 < m.capacity) {key : κ} {now : Nat}
    (value : α) (past : ∀ other i, lastUse other = some i → i < now)
    (new : later key = some now) (old : ∀ other, other ≠ key → later other = lastUse other) :
    Tidy later (m.insert key (m.mark key) value) := by
  have entries := tidy.entries_insert limited (m.isCurrent_mark key) value
  have room : (m.insert key (m.mark key) value).size ≤ m.capacity := by
    unfold size
    rw [entries, Ledger.size_renew]
    exact Nat.lt_of_le_of_lt (Ledger.size_erase_le _ key) (tidy.size_dropOldest_lt limited)
  rw [← (m.limits_step (.insert key (m.mark key) value)).1] at room
  exact tidy.renewed (List.drop_sublist _ _) entries (m.mark_insert key _ value) room past new old

/-- A result that is found is a use of its key. -/
theorem touch (tidy : Tidy lastUse m) {key : κ} {value : α} (found : m.get? key = some value)
    {now : Nat} (past : ∀ other i, lastUse other = some i → i < now)
    (new : later key = some now) (old : ∀ other, other ≠ key → later other = lastUse other) :
    Tidy later (m.touch key) := by
  have entries : (m.touch key).entries = m.entries.renew key ⟨m.mark key, value⟩ := by
    rw [touch_of_get?_eq_some found]
  have room : (m.touch key).size ≤ m.capacity := by
    have mem : key ∈ m.entries.keys := by
      rw [tidy.mem_keys_iff, found]
      rfl
    unfold size
    rw [entries, Ledger.size_renew]
    exact Nat.le_trans (Ledger.size_erase_lt mem) tidy.room
  rw [← (m.limits_step (.fetch key)).1] at room
  exact tidy.renewed (List.Sublist.refl _) entries (m.mark_touch key) room past new old

/-- **Every operation keeps a memo in order.** -/
theorem step (tidy : Tidy lastUse m) (limited : 0 < m.capacity) {now : Nat}
    (past : ∀ key i, lastUse key = some i → i < now) (operation : Operation κ α) :
    Tidy (fun key => if operation.uses m key then some now else lastUse key)
      (m.step operation) := by
  cases operation with
  | insert key mark value =>
    cases accepted : m.isCurrent key mark with
    | true =>
      obtain rfl : m.mark key = mark := isCurrent_iff.mp accepted
      refine tidy.insert limited value past ?_ fun other apart => ?_
      · simp [Operation.uses, accepted]
      · simp [Operation.uses, Ne.symm apart]
    | false =>
      have same : m.step (.insert key mark value) = m := by
        simp [Memo.step, Memo.insert, accepted]
      simpa [Operation.uses, accepted, same] using tidy
  | fetch key =>
    cases found : m.get? key with
    | some value =>
      refine tidy.touch found past ?_ fun other apart => ?_
      · simp [Operation.uses, found]
      · simp [Operation.uses, Ne.symm apart]
    | none =>
      have same : m.step (.fetch key) = m := touch_of_get?_eq_none found
      simpa [Operation.uses, found, same] using tidy
  | invalidate key =>
    refine tidy.thinned List.filter_sublist (fun e mem => ?_) rfl
    have apart : key ≠ e.1 := by
      rintro rfl
      exact m.entries.key_notMem_erase e.1 (List.mem_map_of_mem mem)
    exact (m.mark_invalidate key e.1).trans (if_neg apart)
  | invalidateAll =>
    exact tidy.thinned (List.nil_sublist _) (fun e mem => absurd mem List.not_mem_nil) rfl

end Tidy

/-- **A memo is in order at all times**, if each operation is done later than the ones before. -/
theorem tidy_run (batch : Nat) {capacity : Nat} (limited : 0 < capacity)
    {log : List (Nat × Operation κ α)} (inTime : log.Pairwise (·.1 < ·.1)) :
    let new : Memo κ α := .empty capacity batch
    Tidy (new.lastUse? · log) (new.run log) := by
  intro new
  induction log using List.reverseRecOn with
  | nil =>
    exact ⟨fun e mem => absurd mem List.not_mem_nil, Nat.zero_le _,
      fun key mem => absurd mem List.not_mem_nil, List.Pairwise.nil⟩
  | append_singleton log e ih =>
    obtain ⟨now, operation⟩ := e
    obtain ⟨before, -, latest⟩ := List.pairwise_append.mp inTime
    have tidy := ih before
    have capacity : (new.run log).capacity = capacity := (new.limits_run log).1
    have past : ∀ key i, new.lastUse? key log = some i → i < now := by
      intro key i used
      obtain ⟨earlier, mem⟩ := exists_of_lastUse? used
      exact latest _ mem _ (List.mem_singleton_self _)
    rw [run_concat]
    simp only [lastUse?_concat]
    exact tidy.step (by rw [capacity]; exact limited) past operation

/-- **Room is made by letting the oldest go.**  Do any operations with a new memo that has a
capacity, each at a later instant than the ones before.

The memo keeps no more results than it may, and it keeps exactly those that it can serve.  If a
result is accepted while there is room, nothing goes.  If there is none, exactly as many results
go as the batch says, one at least and all at most, and each of them was used last before every
one that survives.  Afterwards the result is served, and of the others exactly those that have
survived. -/
theorem oldest_go_first (capacity batch : Nat) (limited : 0 < capacity)
    (log : List (Nat × Operation κ α)) (inTime : log.Pairwise (·.1 < ·.1)) :
    let new : Memo κ α := .empty capacity batch
    let m := new.run log
    m.size ≤ capacity ∧
    (∃ served : Finset κ, served.card = m.size ∧
      ∀ key, key ∈ served ↔ (m.fetch key).1.isSome) ∧
    ∀ key mark value, m.isCurrent key mark = true →
      ∃ evicted surviving : Finset κ,
        Disjoint evicted surviving ∧
        (∀ other, other ∈ evicted ∨ other ∈ surviving ↔ (m.get? other).isSome) ∧
        evicted.card = (if m.size < capacity then 0 else min (max batch 1) capacity) ∧
        (∀ a ∈ evicted, ∀ b ∈ surviving, ∃ i j,
          new.lastUse? a log = some i ∧ new.lastUse? b log = some j ∧ i < j) ∧
        ∀ other, (m.insert key mark value).get? other =
          if other = key then some value
          else if other ∈ surviving then m.get? other else none := by
  intro new m
  have tidy : Tidy (new.lastUse? · log) m := tidy_run batch limited inTime
  obtain ⟨hasCapacity, hasBatch⟩ : m.capacity = capacity ∧ m.batch = batch := new.limits_run log
  have distinct : m.entries.keys.Nodup := m.entries.distinct
  refine ⟨hasCapacity ▸ tidy.room, ⟨m.entries.keys.toFinset, ?_, fun key => ?_⟩, ?_⟩
  · rw [List.toFinset_card_of_nodup distinct]
    exact List.length_map _
  · rw [List.mem_toFinset]
    exact tidy.mem_keys_iff
  · intro key mark value accepted
    obtain rfl : m.mark key = mark := isCurrent_iff.mp accepted
    let gone := m.entries.keys.take m.evictions
    let left := m.entries.keys.drop m.evictions
    have both : gone ++ left = m.entries.keys := List.take_append_drop _ _
    refine ⟨gone.toFinset, left.toFinset, ?_, fun other => ?_, ?_, ?_, ?_⟩
    · rw [List.disjoint_toFinset_iff_disjoint]
      exact List.disjoint_take_drop distinct (Nat.le_refl _)
    · rw [List.mem_toFinset, List.mem_toFinset, ← List.mem_append, both]
      exact tidy.mem_keys_iff
    · have count : gone.length = m.evictions :=
        List.length_take_of_le (by rw [Ledger.length_keys]; exact m.evictions_le)
      rw [List.toFinset_card_of_nodup (distinct.sublist (List.take_sublist _ _)), count,
        evictions, hasCapacity, hasBatch]
    · intro a ha b hb
      have order := tidy.order
      rw [← both, List.pairwise_append] at order
      exact order.2.2 a (List.mem_toFinset.mp ha) b (List.mem_toFinset.mp hb)
    · intro other
      simp only [List.mem_toFinset]
      exact tidy.get?_insert (hasCapacity ▸ limited) key value other

/-- Three results fill a memo, and the oldest of them is found once more.  So it survives the
fourth one, although it was the first. -/
theorem found_again_survives :
    let log : List (Nat × Operation String Nat) :=
      [(1, .insert "a" ⟨0, 0⟩ 1), (2, .insert "b" ⟨0, 0⟩ 2), (3, .insert "c" ⟨0, 0⟩ 3),
        (4, .fetch "a")]
    let m := (empty 3 1).run log
    0 < 3 ∧ log.Pairwise (·.1 < ·.1) ∧ m.isCurrent "d" ⟨0, 0⟩ = true ∧ m.size = 3 ∧
      (m.insert "d" ⟨0, 0⟩ 4).get? "a" = some 1 ∧ (m.insert "d" ⟨0, 0⟩ 4).get? "d" = some 4 := by
  intro log m
  have inTime : log.Pairwise (·.1 < ·.1) := by decide
  have accepted : m.isCurrent "d" ⟨0, 0⟩ = true := by decide
  obtain ⟨-, -, makesRoom⟩ := oldest_go_first 3 1 (by decide) log inTime
  obtain ⟨evicted, surviving, -, both, count, older, afterwards⟩ :=
    makesRoom "d" ⟨0, 0⟩ 4 accepted
  have survives : "a" ∈ surviving := by
    refine ((both "a").mpr (by decide)).resolve_left fun gone => ?_
    -- If it went, it would be the only one, and would have been used before `b`.
    have alone : evicted = {"a"} := by
      obtain ⟨only, same⟩ := Finset.card_eq_one.mp count
      rw [same, Finset.mem_singleton] at gone
      rw [same, gone]
    have other : "b" ∈ surviving := by
      refine ((both "b").mpr (by decide)).resolve_left fun gone => ?_
      rw [alone, Finset.mem_singleton] at gone
      exact absurd gone (by decide)
    obtain ⟨i, j, atI, atJ, lt⟩ := older "a" gone "b" other
    obtain rfl : 4 = i := Option.some.inj atI
    obtain rfl : 2 = j := Option.some.inj atJ
    exact absurd lt (by decide)
  refine ⟨by decide, inTime, accepted, by decide, ?_, afterwards "d"⟩
  rw [afterwards "a", if_neg (by decide), if_pos survives]
  rfl

end Gatehouse.Memo
