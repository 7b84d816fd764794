import Gatehouse.Proofs.Breaker.History
import Gatehouse.Proofs.Breaker.TrialSlot

/-!
# Failures in a row

A closed circuit counts failures, and opens when there have been enough of them in a row.
Calls overlap, so it is their ends that stand in a row, whatever the order in which they
started: `failuresInARow` counts the counted failures among the ends of calls, since the
circuit closed or since a call succeeded while it was closed.

The breaker's counter is this number (`Tallied.exact`), and one more failure than the limit
allows never shows in it (`Tallied.few`).  A limit of zero works like one of one.

### What is load-bearing

A trial that ends while the circuit is closed would be obeyed and not counted.  There is none,
by the accounts of the trial slot, and so the only way out of the closed state is an ordinary
failure that reaches the limit (`Settles.opened_iff`).
-/

namespace Gatehouse

/-- How many failures in a row there are after the end of a call. -/
def Ending.tally (failures : Nat) : Ending → Nat
  | .success => 0
  | .countedFailure => failures + 1
  | .otherFailure => failures
  | .abandoned => failures

/-- So many failures in a row open the circuit. -/
def BreakerConfig.limit (config : BreakerConfig) : Nat := max config.failureThreshold 1

theorem BreakerConfig.limit_pos (config : BreakerConfig) : 0 < config.limit :=
  Nat.lt_of_lt_of_le Nat.one_pos (Nat.le_max_right _ 1)

namespace Breaker

theorem failures_of_away {b : Breaker} (away : b.phase ≠ .closed) : b.failures = 0 := by
  unfold failures
  cases circuit : b.circuit with
  | closed failures => exact absurd (phase_of_circuit circuit) away
  | opened last => rfl
  | halfOpen last onTrial => rfl

/-! ## One move -/

/-- A call that starts does not close the circuit, and leaves a closed one alone. -/
theorem Admits.eq_of_closed {b c : Breaker} {now : Nat} {permit : Permit}
    (admits : b.Admits now permit c) (closed : b.phase = .closed ∨ c.phase = .closed) : c = b := by
  cases admits with
  | disabled off => rfl
  | closed on circuit => rfl
  | opened on circuit ended =>
    rw [phase_of_opened circuit] at closed
    rcases closed with was | is
    · cases was
    · cases is
  | halfOpen on circuit =>
    rw [phase_of_halfOpen circuit] at closed
    rcases closed with was | is
    · cases was
    · cases is

/-- A circuit that closes begins to count anew. -/
theorem Settles.failures_of_away {b c : Breaker} {now : Nat} {permit : Permit} {ending : Ending}
    (settles : b.Settles now permit ending c) (away : b.phase ≠ .closed)
    (closed : c.phase = .closed) : c.failures = 0 := by
  cases settles with
  | recovered on => rfl
  | relapsed on => cases closed
  | undecided on neutral =>
    rw [phase_endTrial] at closed
    exact absurd closed away
  | cleared on circuit => rfl
  | tripped on circuit enough => cases closed
  | counted on circuit few => exact absurd (phase_of_circuit circuit) away
  | _ => exact absurd closed away

/-- **A closed circuit that stays closed has counted the end of the call.** -/
theorem Settles.failures_of_closed {b c : Breaker} {now : Nat} {permit : Permit} {ending : Ending}
    (settles : b.Settles now permit ending c) (on : b.config.enabled = true)
    (was : b.phase = .closed) (closed : c.phase = .closed) :
    c.failures = ending.tally b.failures := by
  cases settles with
  | disabled off => rw [on] at off; cases off
  | recovered on => rfl
  | relapsed on => cases closed
  | undecided on neutral =>
    rw [failures_endTrial]
    rcases neutral with rfl | rfl <;> rfl
  | cleared on circuit => rfl
  | tripped on circuit enough => cases closed
  | counted on circuit few =>
    rw [failures_of_circuit circuit]
    rfl
  | uncounted on circuit neutral => rcases neutral with rfl | rfl <;> rfl
  | late on away => exact absurd (phase_eq_closed_iff.mp was) (away _)

/-- A failure that does not count, or a call given up, leaves the count alone. -/
theorem Settles.failures_of_neutral {b c : Breaker} {now : Nat} {permit : Permit} {ending : Ending}
    (settles : b.Settles now permit ending c)
    (neutral : ending = .otherFailure ∨ ending = .abandoned) : c.failures = b.failures := by
  cases settles with
  | undecided on neutral => exact b.failures_endTrial
  | disabled off => rfl
  | uncounted on circuit neutral => rfl
  | late on away => rfl
  | _ => rcases neutral with eq | eq <;> cases eq

/-- A circuit that stays closed is below the limit. -/
theorem Settles.failures_lt_limit {b c : Breaker} {now : Nat} {permit : Permit} {ending : Ending}
    (settles : b.Settles now permit ending c)
    (few : b.phase = .closed → b.failures < b.config.limit) (closed : c.phase = .closed) :
    c.failures < c.config.limit := by
  rw [settles.frame.1]
  cases settles with
  | disabled off => exact few closed
  | recovered on => exact b.config.limit_pos
  | relapsed on => cases closed
  | undecided on neutral =>
    rw [failures_endTrial]
    rw [phase_endTrial] at closed
    exact few closed
  | cleared on circuit => exact b.config.limit_pos
  | tripped on circuit enough => cases closed
  | counted on circuit below => exact Nat.lt_of_lt_of_le below (Nat.le_max_left _ 1)
  | uncounted on circuit neutral => exact few closed
  | late on away => exact few closed

/-- **A closed circuit opens exactly at the failure that reaches the limit**, and does not
become half open. -/
theorem Settles.opened_iff {b c : Breaker} {now : Nat} {ending : Ending}
    (settles : b.Settles now .ordinary ending c) (on : b.config.enabled = true)
    (was : b.phase = .closed) (few : b.failures < b.config.limit) :
    (c.phase = .opened ↔ ending = .countedFailure ∧ b.failures + 1 = b.config.limit) ∧
      c.phase ≠ .halfOpen := by
  unfold BreakerConfig.limit at few ⊢
  cases settles with
  | disabled off => rw [on] at off; cases off
  | cleared on circuit => simp [phase, Circuit.phase]
  | tripped on circuit enough =>
    have opened : (b.trip now).phase = .opened := rfl
    rw [failures_of_circuit circuit] at few ⊢
    rw [opened]
    refine ⟨⟨fun _ => ⟨rfl, by omega⟩, fun _ => rfl⟩, by decide⟩
  | @counted failures on circuit below =>
    rw [failures_of_circuit circuit]
    have closed : { b with circuit := .closed (failures + 1) }.phase = .closed := rfl
    rw [closed]
    refine ⟨⟨fun opened => (by cases opened), fun reached => (by omega)⟩, by decide⟩
  | uncounted on circuit neutral =>
    rw [was]
    rcases neutral with rfl | rfl <;> simp
  | late on away => exact absurd (phase_eq_closed_iff.mp was) (away _)

end Breaker

namespace Traffic

/-! ## The count -/

/-- The failures in a row begin anew: the circuit has closed, or a call has succeeded while it
was closed. -/
def Moment.startsAfresh (m : Moment) : Bool :=
  m.closes || (m.before.breaker.phase == .closed && m.settles .success)

/-- **The failures in a row**, as the past has them. -/
def failuresInARow (past : List Moment) : Nat :=
  countSince (·.startsAfresh) (·.settles .countedFailure) past

/-- While the circuit is closed, the end of a call adds to the count what it has to. -/
theorem failuresInARow_finish (past : List Moment) {t next : Traffic} {ticket : Nat}
    {permit : Permit} (running : t.inFlight.get? ticket = some permit) (ending : Ending)
    (was : t.breaker.phase = .closed) :
    failuresInARow (past ++ [⟨t, .finish ticket ending, next⟩]) =
      ending.tally (failuresInARow past) := by
  unfold failuresInARow
  rw [countSince_concat]
  unfold Moment.startsAfresh Moment.closes
  rw [Moment.settles_of_running running, Moment.settles_of_running running, was]
  cases ending <;> rfl

/-- While the circuit is closed, nothing but the end of a call touches the count. -/
theorem failuresInARow_of_quiet (past : List Moment) {m : Moment}
    (was : m.before.breaker.phase = .closed) (quiet : ∀ ending, m.settles ending = false) :
    failuresInARow (past ++ [m]) = failuresInARow past := by
  unfold failuresInARow
  rw [countSince_concat]
  unfold Moment.startsAfresh Moment.closes
  rw [quiet, quiet, was]
  rfl

/-- A circuit that closes has no failures in a row. -/
theorem failuresInARow_of_closes (past : List Moment) {m : Moment} (closes : m.closes = true) :
    failuresInARow (past ++ [m]) = 0 := by
  unfold failuresInARow
  rw [countSince_concat]
  unfold Moment.startsAfresh
  rw [closes]
  rfl

/-! ## The invariant -/

/-- **The breaker counts what the past has**, and not as far as the limit. -/
structure Tallied (past : List Moment) (t : Traffic) : Prop where
  accounted : t.Accounted
  enabled : t.breaker.config.enabled = true
  exact : t.breaker.phase = .closed → t.breaker.failures = failuresInARow past
  few : t.breaker.phase = .closed → t.breaker.failures < t.breaker.config.limit

namespace Tallied

variable {past : List Moment} {t : Traffic}

/-- While the circuit stays closed, the breaker counts as the past does. -/
theorem exact_of_closed (tallied : t.Tallied past) {next : Traffic} {event : Event} {reply : Reply}
    (move : t.Moves event reply next) (was : t.breaker.phase = .closed)
    (closed : next.breaker.phase = .closed) :
    next.breaker.failures = failuresInARow (past ++ [⟨t, event, next⟩]) := by
  have counted := tallied.exact was
  cases move with
  | rejected rejects =>
    rw [failuresInARow_of_quiet past was fun ending => rfl]
    exact counted
  | admitted admits =>
    rw [failuresInARow_of_quiet past was fun ending => rfl]
    dsimp only
    rw [admits.eq_of_closed (Or.inl was)]
    exact counted
  | settled running settles =>
    rw [failuresInARow_finish past running _ was, ← counted]
    exact settles.failures_of_closed tallied.enabled was closed
  | notRunning unknown ending =>
    rw [failuresInARow_of_quiet past was (Moment.settles_of_notRunning unknown ending t)]
    exact counted
  | passed nanoseconds =>
    rw [failuresInARow_of_quiet past was fun ending => rfl]
    exact counted

/-- When the circuit closes, breaker and past begin anew. -/
theorem exact_of_away {next : Traffic} {event : Event} {reply : Reply}
    (move : t.Moves event reply next) (away : t.breaker.phase ≠ .closed)
    (closed : next.breaker.phase = .closed) :
    next.breaker.failures = failuresInARow (past ++ [⟨t, event, next⟩]) := by
  have closes : Moment.closes ⟨t, event, next⟩ = true := by
    simp [Moment.closes, away, closed]
  rw [failuresInARow_of_closes past closes]
  cases move with
  | admitted admits =>
    have same := admits.eq_of_closed (Or.inr closed)
    rw [same] at closed
    exact absurd closed away
  | settled running settles => exact settles.failures_of_away away closed
  | _ => exact absurd closed away

theorem moves (tallied : t.Tallied past) {next : Traffic} {event : Event} {reply : Reply}
    (move : t.Moves event reply next) : next.Tallied (past ++ [⟨t, event, next⟩]) where
  accounted := tallied.accounted.moves move
  enabled := by
    cases move with
    | admitted admits => exact admits.frame.1 ▸ tallied.enabled
    | settled running settles => exact settles.frame.1 ▸ tallied.enabled
    | _ => exact tallied.enabled
  exact closed := by
    by_cases was : t.breaker.phase = .closed
    · exact tallied.exact_of_closed move was closed
    · exact exact_of_away move was closed
  few closed := by
    cases move with
    | admitted admits =>
      have same := admits.eq_of_closed (Or.inr closed)
      subst same
      exact tallied.few closed
    | settled running settles => exact settles.failures_lt_limit tallied.few closed
    | _ => exact tallied.few closed

/-- **The only way out of the closed state** is the failure that reaches the limit. -/
theorem opened_iff (tallied : t.Tallied past) {next : Traffic} {event : Event} {reply : Reply}
    (move : t.Moves event reply next) (was : t.breaker.phase = .closed) :
    (next.breaker.phase = .opened ↔
      Moment.settles ⟨t, event, next⟩ .countedFailure = true ∧
        failuresInARow (past ++ [⟨t, event, next⟩]) = t.breaker.config.limit) ∧
      next.breaker.phase ≠ .halfOpen := by
  cases move with
  | rejected rejects => simp [was, Moment.settles]
  | admitted admits =>
    have same := admits.eq_of_closed (Or.inl was)
    simp [same, was, Moment.settles]
  | @settled ticket permit ending breaker running settles =>
    rw [Moment.settles_of_running running, failuresInARow_finish past running ending was,
      ← tallied.exact was, beq_iff_eq]
    cases permit with
    | trial =>
      have down : t.breaker.circuit.isOnTrial = false := by
        rw [Breaker.phase_eq_closed_iff.mp was]
        rfl
      exact absurd running (tallied.accounted.no_trial down ticket)
    | ordinary =>
      obtain ⟨opens, notHalf⟩ := settles.opened_iff tallied.enabled was (tallied.few was)
      refine ⟨opens.trans (and_congr_right fun counted => ?_), notHalf⟩
      rw [counted]
      rfl
  | notRunning unknown ending => simp [was, Moment.settles_of_notRunning unknown]
  | passed nanoseconds => simp [pass, was, Moment.settles]

end Tallied

theorem tallied_run (name : String) {config : BreakerConfig} (enabled : config.enabled = true)
    (events : List Event) :
    ((ofBreaker (.make name config)).run events).2.Tallied
      ((ofBreaker (.make name config)).history events) :=
  history_preserves (fun tallied move => tallied.moves move)
    { accounted := accounted_ofBreaker name config
      enabled := enabled
      exact := fun _ => rfl
      few := fun _ => config.limit_pos } events

theorem failures_of_neutral {t next : Traffic} {ticket : Nat} {ending : Ending} {reply : Reply}
    (move : t.Moves (.finish ticket ending) reply next)
    (neutral : ending = .otherFailure ∨ ending = .abandoned) :
    next.breaker.failures = t.breaker.failures := by
  cases move with
  | settled running settles => exact settles.failures_of_neutral neutral
  | notRunning unknown => rfl

/-- What counts as a failure is a failure of a tracked kind. -/
theorem endingOf_eq_countedFailure_iff {α : Type u} {t : Traffic} {result : Except Failure α} :
    t.endingOf result = .countedFailure ↔
      ∃ failure, result = .error failure ∧ failure.kind ∈ t.breaker.config.tracked := by
  cases result with
  | ok value => simp [endingOf]
  | error failure => simp [endingOf, BreakerConfig.tracks]

/-- **The count of failures is exact.**  Take an enabled breaker after any events.

While the circuit is closed, the breaker counts the failures in a row that the past has, and
they are fewer than the limit.  The circuit opens exactly at the end of a call with which they
reach the limit, and leaves the closed state in no other way.  While it is not closed nothing
is counted.  So one more failure always fits into 32 bits if the threshold does.  Failures
that do not count and calls given up leave the count alone, and what counts is a failure of a
tracked kind. -/
theorem failures_in_a_row_exact (name : String) (config : BreakerConfig)
    (enabled : config.enabled = true) (events : List Event) :
    let new := ofBreaker (.make name config)
    let t := (new.run events).2
    let limit := max config.failureThreshold 1
    (t.breaker.phase = .closed →
      t.breaker.failures = failuresInARow (new.history events) ∧
      t.breaker.failures < limit ∧
      ∀ event,
        ((t.step event).2.breaker.phase = .opened ↔
          (t.moment event).settles .countedFailure = true ∧
            failuresInARow (new.history (events ++ [event])) = limit) ∧
        (t.step event).2.breaker.phase ≠ .halfOpen) ∧
    (t.breaker.phase ≠ .closed → t.breaker.failures = 0) ∧
    (config.failureThreshold < UInt32.size → t.breaker.failures + 1 < UInt32.size) ∧
    (∀ ticket ending, ending = .otherFailure ∨ ending = .abandoned →
      (t.step (.finish ticket ending)).2.breaker.failures = t.breaker.failures) ∧
    ∀ (α : Type) (result : Except Failure α), t.endingOf result = .countedFailure ↔
      ∃ failure, result = .error failure ∧ failure.kind ∈ config.tracked := by
  intro new t limit
  have tallied : t.Tallied (new.history events) := tallied_run name enabled events
  have same : t.breaker.config = config := (frame_run new events).1
  have below : t.breaker.phase = .closed → t.breaker.failures < limit := by
    intro closed
    have few := tallied.few closed
    rw [same] at few
    exact few
  refine ⟨fun closed => ⟨tallied.exact closed, below closed, fun event => ?_⟩,
    Breaker.failures_of_away, fun narrow => ?_, fun ticket ending neutral => ?_,
    fun α result => ?_⟩
  · have opens := tallied.opened_iff (t.moves_step event) closed
    rw [same] at opens
    rw [history_concat]
    exact opens
  · have room : 1 < UInt32.size := by decide
    by_cases closed : t.breaker.phase = .closed
    · have few := below closed
      omega
    · rw [Breaker.failures_of_away closed]
      exact room
  · exact failures_of_neutral (t.moves_step (.finish ticket ending)) neutral
  · rw [endingOf_eq_countedFailure_iff, same]

/-- Three calls run side by side.  The first fails, the second fails in a way that does not
count, and the third one's failure is the second in a row, which is the limit. -/
theorem second_failure_in_a_row_opens :
    let config : BreakerConfig := { BreakerConfig.standard with failureThreshold := 2 }
    let new := ofBreaker (.make "broker" config)
    let events : List Event :=
      [.start, .start, .start, .finish 0 .countedFailure, .finish 1 .otherFailure]
    let t := (new.run events).2
    config.enabled = true ∧ t.breaker.failures = 1 ∧ failuresInARow (new.history events) = 1 ∧
      (t.step (.finish 2 .countedFailure)).2.breaker.phase = .opened := by
  intro config new events t
  have on : config.enabled = true := rfl
  have closed : t.breaker.phase = .closed := by decide
  have one : t.breaker.failures = 1 := by decide
  have settles : (t.moment (.finish 2 .countedFailure)).settles .countedFailure = true := by decide
  have two : failuresInARow (new.history (events ++ [.finish 2 .countedFailure])) =
      max config.failureThreshold 1 := by decide
  obtain ⟨whenClosed, -⟩ := failures_in_a_row_exact "broker" config on events
  obtain ⟨exact, -, opens⟩ := whenClosed closed
  have onlyThen := (opens (.finish 2 .countedFailure)).1
  have opened : (t.step (.finish 2 .countedFailure)).2.breaker.phase = .opened :=
    onlyThen.mpr ⟨settles, two⟩
  have counted : failuresInARow (new.history events) = 1 := exact.symm.trans one
  exact ⟨on, one, counted, opened⟩

end Traffic

end Gatehouse
