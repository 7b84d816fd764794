import Gatehouse.Proofs.Memo.Serving
import Mathlib.Data.List.Induction

/-!
# Computations that overlap

Computing a result takes time.  Whoever does it takes the mark of the key first and hands it in
with the result, and between the two anything can happen to the memo: others begin and finish,
keys are invalidated, and results are evicted.  `SharedMemo` keeps the marks that have been
taken beside the memo, by number, so that any number of computations are under way at a time and
every result is handed in under a mark that has been taken for its key.

What the memo does is told by the past alone, without a word about marks.  A result is *in
time* (`InTime`) if its key has not been invalidated since its mark was taken.

* A result that is in time is served, and any other one leaves no trace.
* What is served is the last result for the key that was in time, and the key has not been
  invalidated since (`ServedFrom`).
* Invalidating one key does nothing to another one.

### What is load-bearing

A mark is two counters, and all that is ever asked of it is whether it is the present one.
That is enough because the counters only grow: their sum counts the invalidations of the key
(`total_run`), so a mark that has been left behind never returns.
-/

namespace Gatehouse

/-- A memo with the marks that have been taken, oldest first. -/
structure SharedMemo (κ : Type u) (α : Type v) where
  memo : Memo κ α
  taken : List (κ × Mark)

namespace SharedMemo

variable {κ : Type u} {α : Type v}

/-- Something happens. -/
inductive Event (κ : Type u) (α : Type v) where
  /-- Somebody begins to compute the result for a key. -/
  | take (key : κ)
  /-- Whoever has taken the mark of this number hands a result in. -/
  | insert (number : Nat) (value : α)
  | fetch (key : κ)
  | invalidate (key : κ)
  | invalidateAll

/-- A memo from which no mark has been taken. -/
def ofMemo (memo : Memo κ α) : SharedMemo κ α := ⟨memo, []⟩

variable [DecidableEq κ]

/-- The memo after an event. -/
def step (s : SharedMemo κ α) : Event κ α → SharedMemo κ α
  | .take key => { s with taken := s.taken ++ [(key, s.memo.mark key)] }
  | .insert number value =>
    match s.taken[number]? with
    | none => s
    | some (key, mark) => { s with memo := s.memo.insert key mark value }
  | .fetch key => { s with memo := (s.memo.fetch key).2 }
  | .invalidate key => { s with memo := s.memo.invalidate key }
  | .invalidateAll => { s with memo := s.memo.invalidateAll }

/-- The memo after some events. -/
def run (s : SharedMemo κ α) (events : List (Event κ α)) : SharedMemo κ α := events.foldl step s

@[simp] theorem run_nil (s : SharedMemo κ α) : s.run [] = s := rfl

theorem run_cons (s : SharedMemo κ α) (event : Event κ α) (events : List (Event κ α)) :
    s.run (event :: events) = (s.step event).run events := rfl

theorem run_append (s : SharedMemo κ α) (events more : List (Event κ α)) :
    s.run (events ++ more) = (s.run events).run more :=
  List.foldl_append

/-! ## What the past tells -/

/-- The event makes the results for a key invalid. -/
def Event.invalidates (key : κ) : Event κ α → Bool
  | .invalidate other => other = key
  | .invalidateAll => true
  | _ => false

/-- The event takes a mark. -/
def Event.takes : Event κ α → Bool
  | .take _ => true
  | _ => false

/-- How many marks have been taken. -/
def marksTaken (past : List (Event κ α)) : Nat := past.countP Event.takes

/-- **A result is in time**: the mark of this number was taken for this key, which has not been
invalidated since. -/
def InTime (past : List (Event κ α)) (number : Nat) (key : κ) : Prop :=
  ∃ earlier since, past = earlier ++ .take key :: since ∧ marksTaken earlier = number ∧
    ∀ event ∈ since, event.invalidates key = false

/-- The event replaces the result for a key, or makes it invalid. -/
def Supersedes (past : List (Event κ α)) (key : κ) (event : Event κ α) : Prop :=
  event.invalidates key = true ∨
    ∃ number value, event = .insert number value ∧ InTime past number key

/-- **Where a served result comes from**: it has been handed in in time, and nothing has
superseded it since. -/
def ServedFrom (past : List (Event κ α)) (key : κ) (value : α) : Prop :=
  ∃ earlier number later, past = earlier ++ .insert number value :: later ∧
    InTime earlier number key ∧
    ∀ before event after, later = before ++ event :: after →
      ¬ Supersedes (earlier ++ .insert number value :: before) key event

/-! ## Marks -/

theorem mark_step_of_valid (s : SharedMemo κ α) {event : Event κ α} {key : κ}
    (valid : event.invalidates key = false) : (s.step event).memo.mark key = s.memo.mark key := by
  cases event with
  | take other => rfl
  | insert number value =>
    unfold step
    dsimp only
    split
    · rfl
    · exact s.memo.mark_insert _ _ value key
  | fetch other => exact s.memo.mark_touch other key
  | invalidate other =>
    have apart : other ≠ key := by simpa [Event.invalidates] using valid
    exact (s.memo.mark_invalidate other key).trans (if_neg apart)
  | invalidateAll => cases valid

/-- How often a key has been invalidated, alone and with all the others. -/
def total (m : Mark) : Nat := m.epoch + m.count

theorem total_step_of_invalidates (s : SharedMemo κ α) {event : Event κ α} {key : κ}
    (invalid : event.invalidates key = true) :
    total ((s.step event).memo.mark key) = total (s.memo.mark key) + 1 := by
  cases event with
  | invalidate other =>
    have same : other = key := by simpa [Event.invalidates] using invalid
    have marked : (s.step (.invalidate other)).memo.mark key =
        ⟨s.memo.epoch, (s.memo.mark other).count + 1⟩ :=
      (s.memo.mark_invalidate other key).trans (if_pos same)
    rw [marked, same]
    rfl
  | invalidateAll =>
    have marked : (s.step .invalidateAll).memo.mark key =
        ⟨s.memo.epoch + 1, (s.memo.mark key).count⟩ := s.memo.mark_invalidateAll key
    rw [marked]
    exact Nat.add_right_comm s.memo.epoch 1 _
  | _ => cases invalid

/-- **The counters of a mark count the invalidations of its key.** -/
theorem total_run (s : SharedMemo κ α) (events : List (Event κ α)) (key : κ) :
    total ((s.run events).memo.mark key) =
      total (s.memo.mark key) + events.countP (Event.invalidates key) := by
  induction events generalizing s with
  | nil => rfl
  | cons event events ih =>
    rw [run_cons, ih]
    cases kind : event.invalidates key with
    | true =>
      rw [total_step_of_invalidates s kind, List.countP_cons_of_pos kind]
      omega
    | false =>
      rw [mark_step_of_valid s kind, List.countP_cons_of_neg (by simp [kind])]

theorem mark_run_of_valid (s : SharedMemo κ α) {events : List (Event κ α)} {key : κ}
    (valid : ∀ event ∈ events, event.invalidates key = false) :
    (s.run events).memo.mark key = s.memo.mark key := by
  induction events generalizing s with
  | nil => rfl
  | cons event events ih =>
    rw [run_cons, ih _ fun other mem => valid other (List.mem_cons_of_mem _ mem)]
    exact mark_step_of_valid s (valid event List.mem_cons_self)

/-- **A mark is the present one as long as its key has not been invalidated.** -/
theorem mark_run_eq_iff (s : SharedMemo κ α) (events : List (Event κ α)) (key : κ) :
    (s.run events).memo.mark key = s.memo.mark key ↔
      ∀ event ∈ events, event.invalidates key = false := by
  refine ⟨fun same event mem => ?_, mark_run_of_valid s⟩
  have counted := total_run s events key
  rw [same] at counted
  have none : events.countP (Event.invalidates key) = 0 := by omega
  simpa using List.countP_eq_zero.mp none event mem

/-! ## The marks that have been taken -/

/-- The marks that have been taken stay as they are, and new ones are put behind them. -/
theorem taken_step (s : SharedMemo κ α) (event : Event κ α) :
    (s.step event).taken = s.taken ++
      (match event with
        | .take key => [(key, s.memo.mark key)]
        | _ => []) := by
  cases event with
  | take key => rfl
  | insert number value =>
    unfold step
    dsimp only
    split <;> simp
  | _ => exact (List.append_nil _).symm

theorem length_taken (memo : Memo κ α) (past : List (Event κ α)) :
    ((ofMemo memo).run past).taken.length = marksTaken past := by
  induction past using List.reverseRecOn with
  | nil => rfl
  | append_singleton past event ih =>
    rw [run_append, run_cons, run_nil, taken_step, List.length_append, ih, marksTaken, marksTaken,
      List.countP_append]
    cases event <;> rfl

theorem getElem?_taken_run (s : SharedMemo κ α) (events : List (Event κ α)) {number : Nat}
    {entry : κ × Mark} (h : s.taken[number]? = some entry) :
    (s.run events).taken[number]? = some entry := by
  induction events generalizing s with
  | nil => exact h
  | cons event events ih =>
    apply ih
    obtain ⟨there, -⟩ := List.getElem?_eq_some_iff.mp h
    rw [taken_step, List.getElem?_append_left there]
    exact h

/-- Every mark has been taken at some time for its key. -/
theorem exists_of_taken {memo : Memo κ α} {past : List (Event κ α)} {number : Nat} {key : κ}
    {mark : Mark} (h : ((ofMemo memo).run past).taken[number]? = some (key, mark)) :
    ∃ earlier since, past = earlier ++ .take key :: since ∧ marksTaken earlier = number ∧
      ((ofMemo memo).run earlier).memo.mark key = mark := by
  induction past using List.reverseRecOn with
  | nil => cases h
  | append_singleton past event ih =>
    rw [run_append, run_cons, run_nil, taken_step] at h
    by_cases old : number < ((ofMemo memo).run past).taken.length
    · rw [List.getElem?_append_left old] at h
      obtain ⟨earlier, since, split, then'⟩ := ih h
      exact ⟨earlier, since ++ [event], by simp [split], then'⟩
    · rw [List.getElem?_append_right (Nat.le_of_not_lt old)] at h
      cases event with
      | take other =>
        obtain ⟨here, same⟩ := List.getElem?_eq_some_iff.mp h
        have last : number = ((ofMemo memo).run past).taken.length := by
          simp only [List.length_singleton] at here
          omega
        simp only [List.getElem_singleton, Prod.mk.injEq] at same
        obtain ⟨rfl, rfl⟩ := same
        exact ⟨past, [], rfl, by rw [last, length_taken], rfl⟩
      | _ => cases h

/-- The mark that is taken next has the next number. -/
theorem taken_of_take (memo : Memo κ α) (earlier since : List (Event κ α)) (key : κ) :
    ((ofMemo memo).run (earlier ++ .take key :: since)).taken[marksTaken earlier]? =
      some (key, ((ofMemo memo).run earlier).memo.mark key) := by
  rw [run_append, run_cons]
  apply getElem?_taken_run
  rw [taken_step, ← length_taken memo earlier]
  exact List.getElem?_concat_length

/-- **A result is in time if its mark is the present one.** -/
theorem inTime_iff (memo : Memo κ α) (past : List (Event κ α)) (number : Nat) (key : κ) :
    InTime past number key ↔
      ((ofMemo memo).run past).taken[number]? =
        some (key, ((ofMemo memo).run past).memo.mark key) := by
  have kept : ∀ earlier since, ((ofMemo memo).run (earlier ++ .take key :: since)).memo.mark key =
      ((ofMemo memo).run earlier).memo.mark key ↔
        ∀ event ∈ since, event.invalidates key = false := by
    intro earlier since
    rw [run_append, run_cons]
    exact mark_run_eq_iff _ since key
  constructor
  · rintro ⟨earlier, since, rfl, rfl, valid⟩
    rw [taken_of_take, (kept earlier since).mpr valid]
  · intro taken
    obtain ⟨earlier, since, rfl, number, same⟩ := exists_of_taken taken
    exact ⟨earlier, since, rfl, number, (kept earlier since).mp same.symm⟩

/-! ## Handing in -/

/-- A result that is in time is put into the memo. -/
theorem step_insert_of_inTime {memo : Memo κ α} {past : List (Event κ α)} {number : Nat}
    {key : κ} (inTime : InTime past number key) (value : α) :
    let before := (ofMemo memo).run past
    (before.step (.insert number value)).memo =
      before.memo.insert key (before.memo.mark key) value := by
  intro before
  unfold step
  dsimp only
  rw [(inTime_iff memo past number key).mp inTime]

/-- A result that is late leaves no trace. -/
theorem step_insert_of_late {memo : Memo κ α} {past : List (Event κ α)} {number : Nat}
    (late : ∀ key, ¬ InTime past number key) (value : α) :
    ((ofMemo memo).run past).step (.insert number value) = (ofMemo memo).run past := by
  cases taken : ((ofMemo memo).run past).taken[number]? with
  | none =>
    unfold step
    dsimp only
    rw [taken]
  | some entry =>
    obtain ⟨key, mark⟩ := entry
    have stale : ¬ ((ofMemo memo).run past).memo.mark key = mark := fun same =>
      late key ((inTime_iff memo past number key).mpr (same ▸ taken))
    unfold step
    dsimp only
    rw [taken]
    simp [Memo.insert, Memo.isCurrent, stale]

/-! ## What is served -/

/-- Nothing is served for a key that has just been invalidated. -/
theorem get?_step_of_invalidates (s : SharedMemo κ α) {event : Event κ α} {key : κ}
    (invalid : event.invalidates key = true) : (s.step event).memo.get? key = none := by
  cases event with
  | invalidate other =>
    have same : other = key := by simpa [Event.invalidates] using invalid
    exact (s.memo.get?_invalidate other key).trans (if_pos same)
  | invalidateAll => exact s.memo.get?_invalidateAll key
  | _ => cases invalid

/-- What is served after an event that does not supersede it was served before. -/
theorem get?_of_get?_step {memo : Memo κ α} {past : List (Event κ α)} {event : Event κ α}
    {key : κ} {value : α} (kept : ¬ Supersedes past key event)
    (served : (((ofMemo memo).run past).step event).memo.get? key = some value) :
    ((ofMemo memo).run past).memo.get? key = some value := by
  cases event with
  | take other => exact served
  | insert number result =>
    by_cases inTime : ∃ other, InTime past number other
    · obtain ⟨other, inTime⟩ := inTime
      have apart : other ≠ key := fun same =>
        kept (Or.inr ⟨number, result, rfl, same ▸ inTime⟩)
      rw [step_insert_of_inTime inTime] at served
      exact (Memo.get?_of_get?_insert served).resolve_left fun entered => apart entered.1
    · rwa [step_insert_of_late (not_exists.mp inTime)] at served
  | fetch other =>
    have touched : (((ofMemo memo).run past).memo.touch other).get? key = some value := served
    rwa [Memo.get?_touch] at touched
  | invalidate other =>
    by_cases same : other = key
    · exact absurd (Or.inl (by simp [Event.invalidates, same])) kept
    · rwa [step, Memo.get?_invalidate, if_neg same] at served
  | invalidateAll => exact absurd (Or.inl rfl) kept

/-- What has not been superseded is served from where it was. -/
theorem ServedFrom.append {past : List (Event κ α)} {key : κ} {value : α}
    (served : ServedFrom past key value) {event : Event κ α}
    (kept : ¬ Supersedes past key event) : ServedFrom (past ++ [event]) key value := by
  obtain ⟨earlier, number, later, rfl, inTime, undisturbed⟩ := served
  refine ⟨earlier, number, later ++ [event], by simp, inTime, ?_⟩
  intro before other after split
  -- The event in question is the new one, or one that was there before.
  rcases List.eq_nil_or_concat after with rfl | ⟨others, last, rfl⟩
  · obtain ⟨rfl, same⟩ := List.append_inj' split rfl
    cases same
    exact kept
  · have split' : later ++ [event] = (before ++ other :: others) ++ [last] := by
      simpa using split
    obtain ⟨rfl, -⟩ := List.append_inj' split' rfl
    exact undisturbed before other others rfl

/-- **What is served has been handed in in time, and nothing has superseded it.** -/
theorem servedFrom_of_get? {capacity batch : Nat} {past : List (Event κ α)} {key : κ} {value : α}
    (served : ((ofMemo (.empty capacity batch)).run past).memo.get? key = some value) :
    ServedFrom past key value := by
  induction past using List.reverseRecOn with
  | nil => cases served
  | append_singleton past event ih =>
    rw [run_append, run_cons, run_nil] at served
    by_cases superseded : Supersedes past key event
    · rcases superseded with invalid | ⟨number, result, rfl, inTime⟩
      · rw [get?_step_of_invalidates _ invalid] at served
        cases served
      · rw [step_insert_of_inTime inTime, Memo.get?_insert_self] at served
        cases served
        refine ⟨past, number, [], rfl, inTime, fun before event after split => ?_⟩
        exact absurd split.symm (by simp)
    · exact (ih (get?_of_get?_step superseded served)).append superseded

/-- **Results are served as long as they are valid.**  Take a memo of any capacity and batch,
and any history of computations that begin and end, of look-ups and of invalidations.

* Somebody takes the mark of a key, more happens, and then a result is handed in under this
  mark.  If the key has not been invalidated in between, alone or with all the others, the
  result is served.  If it has, nothing at all is changed.
* What a look-up finds is the last result for the key that was handed in in time, and the key
  has not been invalidated since.
* Invalidating a key does not outdate the mark of another one, and does not remove its entry. -/
theorem results_are_served_while_valid (capacity batch : Nat) :
    let start : SharedMemo κ α := ofMemo (.empty capacity batch)
    (∀ earlier key since value,
      let before := start.run (earlier ++ .take key :: since)
      let after := before.step (.insert (marksTaken earlier) value)
      ((∀ event ∈ since, event.invalidates key = false) →
          (after.memo.fetch key).1 = some value) ∧
        ((∃ event ∈ since, event.invalidates key = true) → after = before)) ∧
    (∀ past key value, ((start.run past).memo.fetch key).1 = some value →
      ServedFrom past key value) ∧
    ∀ past key other, other ≠ key →
      let before := start.run past
      let after := before.step (.invalidate other)
      after.memo.mark key = before.memo.mark key ∧
        after.memo.entries.get? key = before.memo.entries.get? key ∧
        (after.memo.fetch key).1 = (before.memo.fetch key).1 := by
  intro start
  refine ⟨fun earlier key since value => ⟨fun valid => ?_, fun ⟨event, mem, invalid⟩ => ?_⟩,
    fun past key value => servedFrom_of_get?, fun past key other apart => ?_⟩
  · have inTime : InTime (earlier ++ .take key :: since) (marksTaken earlier) key :=
      ⟨earlier, since, rfl, rfl, valid⟩
    rw [step_insert_of_inTime inTime, Memo.fetch_fst, Memo.get?_insert_self]
  · apply step_insert_of_late
    intro other inTime
    have present := (inTime_iff (.empty capacity batch) _ _ _).mp inTime
    rw [taken_of_take] at present
    obtain ⟨rfl, same⟩ := Prod.mk.inj (Option.some.inj present)
    rw [run_append, run_cons] at same
    rw [(mark_run_eq_iff _ since key).mp same.symm event mem] at invalid
    cases invalid
  · intro before after
    have mark : after.memo.mark key = before.memo.mark key :=
      mark_step_of_valid _ (by simp [Event.invalidates, apart])
    have entry : after.memo.entries.get? key = before.memo.entries.get? key :=
      (before.memo.entries.get?_erase other key).trans (if_neg apart)
    exact ⟨mark, entry, Memo.get?_congr mark entry⟩

/-- Results for two keys are computed at a time, and one of the keys is invalidated meanwhile.
The result for the other one is served, also after the key has been invalidated once more, and
the late result leaves no trace. -/
theorem only_result_in_time_is_served :
    let start : SharedMemo String Nat := ofMemo (.empty 8 2)
    let begun : List (Event String Nat) := [.take "a", .take "b", .fetch "a", .invalidate "b"]
    let past := begun ++ [.insert 0 1]
    let served := start.run past
    (served.memo.fetch "a").1 = some 1 ∧ ServedFrom past "a" 1 ∧
      ((served.step (.invalidate "b")).memo.fetch "a").1 = some 1 ∧
      (start.run begun).step (.insert 1 2) = start.run begun := by
  intro start begun past served
  obtain ⟨handedIn, found, apart⟩ := results_are_served_while_valid (κ := String) (α := Nat) 8 2
  have handed : served = (start.run begun).step (.insert 0 1) := run_append start begun _
  have inTime : (served.memo.fetch "a").1 = some 1 := by
    rw [handed]
    exact (handedIn [] "a" [.take "b", .fetch "a", .invalidate "b"] 1).1 (by decide)
  have late : (start.run begun).step (.insert 1 2) = start.run begun :=
    (handedIn [.take "a"] "b" [.fetch "a", .invalidate "b"] 2).2
      ⟨.invalidate "b", by simp, by decide⟩
  have still := (apart past "a" "b" (by decide)).2.2
  exact ⟨inTime, found past "a" 1 inTime, still.trans inTime, late⟩

end SharedMemo

end Gatehouse
