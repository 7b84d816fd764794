import Gatehouse.Proofs.Breaker.Changes

/-!
# The wait of an open circuit

From an opening until its wait is over a breaker is frozen: no call passes, and no call that
still runs from before makes a difference, however it ends.  Every call is told exactly how
long the rest of the wait is, and the first call after the wait is the trial.

The proof follows one state, `Waits`: the circuit is open, and every call in flight is an
ordinary one.  Nothing leaves this state but a call that starts after the wait
(`Waits.moves`), so that a run stays in it as long as all calls in the run start earlier
(`Waits.run`).

### What is load-bearing

An open circuit alone would not do.  The end of a trial is obeyed in any state, so a trial
in flight could close an open circuit long before its time; that there is none comes from the
accounts of the trial slot (`Accounted.no_trial`).

When the wait begins is what the breaker remembers, and so it takes the history to see that this
is the instant at which the circuit opened (`Remembers.opened`).  That no call is told to wait
longer than the whole wait needs the opening to lie in the past (`Remembers.since`).
-/

namespace Gatehouse

namespace Traffic

/-! ## The frozen state -/

/-- **The circuit is open, and nobody is on trial.** -/
structure Waits (t : Traffic) (last : Opening) : Prop where
  enabled : t.breaker.config.enabled = true
  circuit : t.breaker.circuit = .opened last
  ordinary : ∀ ticket, t.inFlight.get? ticket ≠ some .trial

/-- All calls of a run start before an instant. -/
def StartsBefore (t : Traffic) (events : List Event) (instant : Nat) : Prop :=
  ∀ earlier later, events = earlier ++ .start :: later → (t.run earlier).2.now < instant

theorem StartsBefore.tail {t : Traffic} {event : Event} {events : List Event} {instant : Nat}
    (h : t.StartsBefore (event :: events) instant) :
    (t.step event).2.StartsBefore events instant :=
  fun earlier later split => h (event :: earlier) later (by rw [split]; rfl)

/-- In a run that ends before an instant all calls start before it. -/
theorem startsBefore_of_now_lt {t : Traffic} {events : List Event} {instant : Nat}
    (early : (t.run events).2.now < instant) : t.StartsBefore events instant := by
  intro earlier later split
  rw [split, run_append] at early
  exact Nat.lt_of_le_of_lt (now_le_run (t.run earlier).2 _) early

namespace Waits

variable {t : Traffic} {last : Opening}

/-- **Nothing but a call after the wait changes the breaker**, and nothing before lets a call
pass. -/
theorem moves (waits : t.Waits last) {next : Traffic} {event : Event} {reply : Reply}
    (move : t.Moves event reply next)
    (early : event = .start → t.now < last.since + last.coolDown * millisecond) :
    next.Waits last ∧ next.breaker = t.breaker ∧ ∀ ticket, reply ≠ .admitted ticket := by
  cases move with
  | rejected rejects => exact ⟨waits, rfl, fun ticket eq => by cases eq⟩
  | admitted admits =>
    exfalso
    cases admits with
    | disabled off => rw [waits.enabled] at off; cases off
    | closed on circuit => rw [waits.circuit] at circuit; cases circuit
    | opened on circuit ended =>
      rw [waits.circuit] at circuit
      cases circuit
      exact Opening.waitLeft_ne_zero_iff.mpr (early rfl) ended
    | halfOpen on circuit => rw [waits.circuit] at circuit; cases circuit
  | @settled ticket permit ending breaker running settles =>
    cases permit with
    | trial => exact absurd running (waits.ordinary ticket)
    | ordinary =>
      -- The call has outlived the opening.
      have away : t.breaker.phase ≠ .closed := by
        rw [Breaker.phase_of_opened waits.circuit]
        decide
      obtain rfl : breaker = t.breaker := settles.eq_of_away away
      refine ⟨⟨waits.enabled, waits.circuit, fun other => ?_⟩, rfl, fun ticket eq => by cases eq⟩
      dsimp only
      rw [Ledger.get?_erase]
      split
      · intro running
        cases running
      · exact waits.ordinary other
  | notRunning unknown ending => exact ⟨waits, rfl, fun ticket eq => by cases eq⟩
  | passed nanoseconds =>
    exact ⟨⟨waits.enabled, waits.circuit, waits.ordinary⟩, rfl, fun ticket eq => by cases eq⟩

/-- **A whole run before the end of the wait leaves the breaker as it is.** -/
theorem run (waits : t.Waits last) {events : List Event}
    (early : t.StartsBefore events (last.since + last.coolDown * millisecond)) :
    (t.run events).2.Waits last ∧ (t.run events).2.breaker = t.breaker ∧
      ∀ ticket, .admitted ticket ∉ (t.run events).1 := by
  induction events generalizing t with
  | nil => exact ⟨waits, rfl, fun ticket mem => absurd mem List.not_mem_nil⟩
  | cons event events ih =>
    have now : event = .start → t.now < last.since + last.coolDown * millisecond := by
      rintro rfl
      exact early [] events rfl
    obtain ⟨waiting, same, silent⟩ := waits.moves (t.moves_step event) now
    obtain ⟨still, unchanged, quiet⟩ := ih waiting early.tail
    refine ⟨still, unchanged.trans same, fun ticket mem => ?_⟩
    rw [run_cons] at mem
    rcases List.mem_cons.mp mem with first | rest
    · exact silent ticket first.symm
    · exact quiet ticket rest

/-- Before the end of the wait a call is told what is left of it. -/
theorem step_start_early (waits : t.Waits last)
    (early : t.now < last.since + last.coolDown * millisecond) :
    t.step .start = (.rejected (.circuitOpen t.breaker.name
      (last.since + last.coolDown * millisecond - t.now)), t) :=
  step_start_of_rejects
    (.opened waits.enabled waits.circuit (Opening.waitLeft_ne_zero_iff.mpr early))

/-- After the wait a call is admitted, and it is the trial. -/
theorem step_start_late (waits : t.Waits last)
    (late : last.since + last.coolDown * millisecond ≤ t.now) :
    ∃ next, t.step .start = (.admitted t.issued, next) ∧
      next.inFlight.get? t.issued = some .trial ∧
      next.breaker.circuit = .halfOpen last true := by
  have ended : last.waitLeft t.now = 0 := by
    unfold Opening.waitLeft
    omega
  refine ⟨_, step_start_of_admits (.opened waits.enabled waits.circuit ended), ?_, rfl⟩
  dsimp only
  rw [Ledger.get?_set, if_pos rfl]

end Waits

/-- An open circuit of a breaker that is enabled waits, whatever has happened before. -/
theorem waits_of_opened {name : String} {config : BreakerConfig} (enabled : config.enabled = true)
    {past : List Event} {last : Opening}
    (opened : ((ofBreaker (.make name config)).run past).2.breaker.circuit = .opened last) :
    ((ofBreaker (.make name config)).run past).2.Waits last where
  enabled := by rw [(frame_run _ past).1]; exact enabled
  circuit := opened
  ordinary := (accounted_run name config past).no_trial (by rw [opened]; rfl)

/-- **An open circuit keeps its promise.**  Take any state of an enabled breaker in which the
circuit is open, and let anything happen from there on.

The wait has begun at the instant at which the circuit opened last, and it is as long as the
openings before that one make it.  Until the wait is over the breaker stays as it is, no call is
admitted, and a call is rejected with exactly the time that is left, which is positive and no
longer than the whole wait.  The breaker stays as it is beyond that until a call starts, and the
first call that starts after the wait is admitted as the trial. -/
theorem open_until_wait_is_over (name : String) (config : BreakerConfig)
    (enabled : config.enabled = true) (past : List Event) (last : Opening)
    (opened : ((ofBreaker (.make name config)).run past).2.breaker.circuit = .opened last)
    (events : List Event) :
    let t := ((ofBreaker (.make name config)).run past).2
    let u := (t.run events).2
    let due := last.since + last.coolDown * millisecond
    (∃ m, lastOpened? ((ofBreaker (.make name config)).history past) = some m ∧
      m.Opened config last) ∧
    (u.now < due →
      u.breaker = t.breaker ∧
      (∀ ticket, .admitted ticket ∉ (t.run events).1) ∧
      u.step .start = (.rejected (.circuitOpen name (due - u.now)), u) ∧
      0 < due - u.now ∧ due - u.now ≤ last.coolDown * millisecond) ∧
    (t.StartsBefore events due → due ≤ u.now →
      u.breaker = t.breaker ∧
      ∃ next, u.step .start = (.admitted u.issued, next) ∧
        next.inFlight.get? u.issued = some .trial ∧
        next.breaker.circuit = .halfOpen last true) := by
  intro t u due
  have waits : t.Waits last := waits_of_opened enabled opened
  have remembers := remembers_run name config past
  have remembered : t.breaker.circuit.lastOpening? = some last := by
    rw [opened]
    rfl
  refine ⟨?_, fun early => ?_, fun early late => ?_⟩
  · obtain ⟨m, found, opening⟩ := remembers.opened last remembered
    rw [(frame_run _ past).1] at opening
    exact ⟨m, found, opening⟩
  · obtain ⟨still, same, quiet⟩ := waits.run (startsBefore_of_now_lt early)
    have named : u.breaker.name = name := by
      rw [same]
      exact (frame_run _ past).2
    have since : last.since ≤ u.now :=
      Nat.le_trans (remembers.since last remembered) (now_le_run t events)
    refine ⟨same, quiet, ?_, Nat.sub_pos_of_lt early, ?_⟩
    · rw [still.step_start_early early, named]
    · show last.since + last.coolDown * millisecond - u.now ≤ last.coolDown * millisecond
      omega
  · obtain ⟨still, same, -⟩ := waits.run early
    exact ⟨same, still.step_start_late late⟩

/-- Two calls run side by side, and one of them opens the circuit five nanoseconds after the
beginning.  The other one succeeds a little later, which changes nothing: a nanosecond before
the end of the wait a call is told to wait a nanosecond, and at the end it is the trial. -/
theorem open_despite_late_success :
    let config : BreakerConfig := { BreakerConfig.standard with failureThreshold := 1 }
    let new := ofBreaker (.make "broker" config)
    let past : List Event := [.start, .start, .pass 5, .finish 0 .countedFailure]
    let t := (new.run past).2
    let early := (t.run [.finish 1 .success, .pass 29999999999]).2
    let late := (t.run [.finish 1 .success, .pass 30000000000]).2
    config.enabled = true ∧ t.breaker.circuit = .opened ⟨5, 30000, 1⟩ ∧
      (∃ m, lastOpened? (new.history past) = some m ∧ m.before.now = 5) ∧
      (early.step .start).1 = .rejected (.circuitOpen "broker" 1) ∧
      ∃ next, late.step .start = (.admitted 2, next) ∧
        next.inFlight.get? 2 = some .trial := by
  intro config new past t early late
  have opened : t.breaker.circuit = .opened ⟨5, 30000, 1⟩ := rfl
  obtain ⟨⟨m, last, opening⟩, untilDue, -⟩ := open_until_wait_is_over "broker" config rfl past
    ⟨5, 30000, 1⟩ opened [.finish 1 .success, .pass 29999999999]
  obtain ⟨-, -, afterDue⟩ := open_until_wait_is_over "broker" config rfl past
    ⟨5, 30000, 1⟩ opened [.finish 1 .success, .pass 30000000000]
  have noCall : t.StartsBefore [.finish 1 .success, .pass 30000000000] 30000000005 := by
    intro earlier later split
    have mem : Event.start ∈ [Event.finish 1 .success, .pass 30000000000] := by
      rw [split]
      simp
    simp at mem
  have rejected : (early.step .start).1 =
      .rejected (.circuitOpen "broker" (5 + 30000 * millisecond - early.now)) :=
    congrArg Prod.fst (untilDue (by decide)).2.2.1
  have left : 5 + 30000 * millisecond - early.now = 1 := by decide
  rw [left] at rejected
  obtain ⟨-, next, admitted, trial, -⟩ := afterDue noCall (by decide)
  exact ⟨rfl, opened, ⟨m, last, opening.since.symm⟩, rejected, next, admitted, trial⟩

end Traffic

end Gatehouse
