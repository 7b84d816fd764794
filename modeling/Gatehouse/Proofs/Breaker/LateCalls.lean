import Gatehouse.Proofs.Breaker.FailureCount

/-!
# Calls that outlive an opening

A call that starts before the circuit opens may end long after.  Its permit does not say when
it was given, so that its end is judged by the state of the circuit at that time alone.

* While the circuit is open or half open the end means nothing (`Settles.eq_of_away`).
* Once the circuit has closed again the end counts like that of a call admitted since.  A late
  failure is one in a row more, and a late success wipes out the failures that the recovered
  circuit has counted.

`late_call_changes_nothing_iff` says exactly when the breaker stays as it is, and
`late_calls_disturb_recovered_circuit` shows one run of either kind in which it does not.

### What is load-bearing

No trial outlives an opening: a trial in flight is what a half-open circuit waits for, and an
open one has none.  So the permit of a call that does is an ordinary one, and remains so
however long it runs (`permit_of_run`).
-/

namespace Gatehouse

namespace Breaker

/-- **When the end of an ordinary call changes nothing.** -/
theorem Settles.eq_iff_of_ordinary {b c : Breaker} {now : Nat} {ending : Ending}
    (settles : b.Settles now .ordinary ending c) (on : b.config.enabled = true) :
    c = b ↔ b.phase ≠ .closed ∨ ending = .otherFailure ∨ ending = .abandoned ∨
      (ending = .success ∧ b.failures = 0) := by
  cases settles with
  | disabled off => rw [on] at off; cases off
  | @cleared failures on circuit =>
    have closed : b.phase = .closed := phase_of_circuit circuit
    rw [failures_of_circuit circuit]
    constructor
    · intro same
      have zero : Circuit.closed 0 = .closed failures :=
        (congrArg Breaker.circuit same).trans circuit
      cases zero
      simp
    · rintro (away | neutral | neutral | ⟨-, rfl⟩)
      · exact absurd closed away
      · cases neutral
      · cases neutral
      · rw [← circuit]
  | @tripped failures on circuit enough =>
    have closed : b.phase = .closed := phase_of_circuit circuit
    have changed : b.trip now ≠ b := by
      intro same
      rw [← same] at closed
      cases closed
    simp [closed, changed]
  | @counted failures on circuit few =>
    have closed : b.phase = .closed := phase_of_circuit circuit
    have changed : { b with circuit := .closed (failures + 1) } ≠ b := by
      intro same
      have next : Circuit.closed (failures + 1) = .closed failures :=
        (congrArg Breaker.circuit same).trans circuit
      injection next with eq
      omega
    simp [closed, changed]
  | uncounted on circuit neutral =>
    rcases neutral with rfl | rfl <;> simp
  | late on away =>
    have notClosed : b.phase ≠ .closed := fun closed => away _ (phase_eq_closed_iff.mp closed)
    simp [notClosed]

end Breaker

namespace Traffic

/-- Tickets are given out and not taken back. -/
theorem issued_le_of_moves {t next : Traffic} {event : Event} {reply : Reply}
    (move : t.Moves event reply next) : t.issued ≤ next.issued := by
  cases move with
  | admitted admits => exact Nat.le_succ t.issued
  | _ => exact Nat.le_refl t.issued

/-- **A call keeps its permit.**  One that had started before a run and is still under way
after it has the permit that it had. -/
theorem permit_of_run (t : Traffic) (events : List Event) {ticket : Nat} {permit : Permit}
    (given : ticket < t.issued)
    (running : (t.run events).2.inFlight.get? ticket = some permit) :
    t.inFlight.get? ticket = some permit := by
  have kept := run_preserves (P := fun u => t.issued ≤ u.issued ∧
    ∀ ticket permit, ticket < t.issued → u.inFlight.get? ticket = some permit →
      t.inFlight.get? ticket = some permit) ?_ ⟨Nat.le_refl _, fun _ _ _ => id⟩ events
  · exact kept.2 ticket permit given running
  rintro u next event reply ⟨later, same⟩ move
  refine ⟨Nat.le_trans later (issued_le_of_moves move), fun ticket permit given running => ?_⟩
  cases move with
  | admitted admits =>
    -- The new ticket is a later one.
    dsimp only at running
    rw [Ledger.get?_set, if_neg (by omega)] at running
    exact same ticket permit given running
  | settled settled settles =>
    dsimp only at running
    rw [Ledger.get?_erase] at running
    split at running
    · cases running
    · exact same ticket permit given running
  | _ => exact same ticket permit given running

/-- Nobody is on trial while the circuit is open. -/
theorem Accounted.ordinary_of_opened {t : Traffic} (accounted : t.Accounted)
    (opened : t.breaker.phase = .opened) {ticket : Nat} {permit : Permit}
    (running : t.inFlight.get? ticket = some permit) : permit = .ordinary := by
  cases permit with
  | ordinary => rfl
  | trial =>
    refine absurd running (accounted.no_trial (Bool.eq_false_iff.mpr fun up => ?_) ticket)
    rw [Breaker.phase_of_isOnTrial up] at opened
    cases opened

theorem breaker_finish_of_running {t : Traffic} {ticket : Nat} {permit : Permit}
    (running : t.inFlight.get? ticket = some permit) (ending : Ending) :
    (t.step (.finish ticket ending)).2.breaker = t.breaker.settle t.now permit ending := by
  simp [step, finish?, running]

/-- **What the end of a late call does.**  A call has been admitted, the circuit has opened
since, and more has happened: now the call ends.  The breaker stays as it is exactly if the
circuit is not closed, or the end of a call admitted just now would not change it either: the
failure does not count, the call has been given up, or it has succeeded where no failures have
been counted. -/
theorem late_call_changes_nothing_iff (name : String) (config : BreakerConfig)
    (past : List Event) (opening : Event) (during : List Event) (ticket : Nat)
    (ending : Ending) :
    let before := ((ofBreaker (.make name config)).run past).2
    let opened := (before.step opening).2
    let late := (opened.run during).2
    ticket < before.issued →
    before.breaker.phase ≠ .opened → opened.breaker.phase = .opened →
    late.inFlight.get? ticket ≠ none →
      ((late.step (.finish ticket ending)).2.breaker = late.breaker ↔
        late.breaker.phase ≠ .closed ∨ ending = .otherFailure ∨ ending = .abandoned ∨
          (ending = .success ∧ late.breaker.failures = 0)) := by
  intro before opened late admitted _ isOpen underWay
  obtain ⟨permit, running⟩ := Option.ne_none_iff_exists'.mp underWay
  have move := before.moves_step opening
  have accounted : opened.Accounted := (accounted_run name config past).moves move
  have given : ticket < opened.issued := Nat.lt_of_lt_of_le admitted (issued_le_of_moves move)
  obtain rfl : permit = .ordinary :=
    accounted.ordinary_of_opened isOpen (opened.permit_of_run during given running)
  have enabled : late.breaker.config.enabled = true := by
    rw [(frame_run opened during).1]
    exact accounted.enabled_of_phase (by rw [isOpen]; decide)
  rw [breaker_finish_of_running running]
  exact (late.breaker.settles_settle late.now .ordinary ending).eq_iff_of_ordinary enabled

/-- Two calls run side by side, and the failure of one opens the circuit.  The other succeeds
while the circuit is open, and the breaker takes no notice. -/
theorem late_success_unnoticed_while_open :
    let config : BreakerConfig := { BreakerConfig.standard with failureThreshold := 1 }
    let before := ((ofBreaker (.make "broker" config)).run [.start, .start]).2
    let late := (before.step (.finish 1 .countedFailure)).2
    0 < before.issued ∧ before.breaker.phase ≠ .opened ∧ late.breaker.phase = .opened ∧
      late.inFlight.get? 0 ≠ none ∧
      (late.step (.finish 0 .success)).2.breaker = late.breaker := by
  intro config before late
  have admitted : 0 < before.issued := by decide
  have closed : before.breaker.phase ≠ .opened := by decide
  have isOpen : late.breaker.phase = .opened := by decide
  have underWay : late.inFlight.get? 0 ≠ none := by decide
  have unchanged := late_call_changes_nothing_iff "broker" config [.start, .start]
    (.finish 1 .countedFailure) [] 0 .success admitted closed isOpen underWay
  have away : late.breaker.phase ≠ .closed := by decide
  exact ⟨admitted, closed, isOpen, underWay, unchanged.mpr (Or.inl away)⟩

/-- **Late calls disturb a circuit that has recovered.**  In both runs a call with the first
ticket is admitted, the circuit opens, and a trial closes it again before the call ends.  With
a threshold of one the late failure opens the circuit again.  With a threshold of two the late
success wipes out a failure that was counted since the recovery. -/
theorem late_calls_disturb_recovered_circuit :
    (let config : BreakerConfig :=
        { BreakerConfig.standard with failureThreshold := 1, coolDown := 0 }
      let before := ((ofBreaker (.make "broker" config)).run [.start, .start]).2
      let opened := (before.step (.finish 1 .countedFailure)).2
      let recovered := (opened.run [.start, .finish 2 .success]).2
      before.inFlight.get? 0 = some .ordinary ∧
      before.breaker.phase = .closed ∧ opened.breaker.phase = .opened ∧
      recovered.breaker.phase = .closed ∧
      (recovered.step (.finish 0 .countedFailure)).2.breaker.phase = .opened) ∧
    (let config : BreakerConfig :=
        { BreakerConfig.standard with failureThreshold := 2, coolDown := 0 }
      let before := ((ofBreaker (.make "broker" config)).run
        [.start, .start, .finish 1 .countedFailure, .start]).2
      let opened := (before.step (.finish 2 .countedFailure)).2
      let recovered := (opened.run
        [.start, .finish 3 .success, .start, .finish 4 .countedFailure]).2
      before.inFlight.get? 0 = some .ordinary ∧
      before.breaker.phase = .closed ∧ opened.breaker.phase = .opened ∧
      recovered.breaker.phase = .closed ∧ recovered.breaker.failures = 1 ∧
      (recovered.step (.finish 0 .success)).2.breaker.failures = 0) := by
  decide

end Traffic

end Gatehouse
