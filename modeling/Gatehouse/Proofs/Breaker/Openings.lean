import Gatehouse.Proofs.Breaker.Changes
import Gatehouse.Proofs.Breaker.FailureCount

/-!
# The openings of a circuit

The circuit goes one way round, and the openings in a row make the wait grow.  What is left to
see, once it is known what the breaker remembers, is that a circuit closes in one way only: by
the success of a trial (`Accounted.closes_iff`).

The openings in a row have no bound here, and a counter of 32 bits is the same for as long as
they fit into it.
-/

namespace Gatehouse

/-- No wait is longer than it may be. -/
theorem BreakerConfig.coolDownFor_le (config : BreakerConfig) (opens : Nat) :
    config.coolDownFor opens ≤ max config.coolDown config.maxCoolDown :=
  Backoff.wait_le _ _ _ _

namespace Traffic

/-- **The circuit closes exactly if a trial succeeds.** -/
theorem Accounted.closes_iff {t next : Traffic} {event : Event} {reply : Reply}
    (accounted : t.Accounted) (move : t.Moves event reply next) :
    Moment.closes ⟨t, event, next⟩ = true ↔
      ∃ ticket, event = .finish ticket .success ∧ t.inFlight.get? ticket = some .trial := by
  have closes : Moment.closes ⟨t, event, next⟩ = true ↔
      t.breaker.phase ≠ .closed ∧ next.breaker.phase = .closed := by
    simp [Moment.closes]
  rw [closes]
  constructor
  · rintro ⟨away, closed⟩
    cases move with
    | admitted admits =>
      have same := admits.eq_of_closed (Or.inr closed)
      subst same
      exact absurd closed away
    | @settled ticket permit ending breaker running settles =>
      cases permit with
      | ordinary =>
        obtain rfl : breaker = t.breaker := settles.eq_of_away away
        exact absurd closed away
      | trial =>
        cases settles with
        | disabled off => exact absurd closed away
        | recovered on => exact ⟨ticket, rfl, running⟩
        | relapsed on => cases closed
        | undecided on neutral =>
          exact absurd ((Breaker.phase_endTrial t.breaker).symm.trans closed) away
    | _ => exact absurd closed away
  · rintro ⟨ticket, rfl, running⟩
    have away : t.breaker.phase ≠ .closed := by
      rw [accounted.halfOpen_of_trial running]
      decide
    refine ⟨away, ?_⟩
    cases move with
    | settled found settles =>
      obtain rfl := Option.some.inj (running.symm.trans found)
      cases settles with
      | disabled off =>
        rw [accounted.enabled_of_phase away] at off
        cases off
      | recovered on => rfl
      | undecided on neutral => rcases neutral with eq | eq <;> cases eq
    | notRunning unknown =>
      rw [running] at unknown
      cases unknown

/-- A breaker that is not enabled stays as it is made. -/
theorem breaker_run_of_disabled (name : String) {config : BreakerConfig}
    (off : config.enabled = false) (events : List Event) :
    ((ofBreaker (.make name config)).run events).2.breaker = .make name config := by
  refine run_preserves (P := fun t => t.breaker = .make name config) ?_ rfl events
  intro t next event reply same move
  have disabled : t.breaker.config.enabled = false := by rw [same]; exact off
  cases move with
  | admitted admits => exact (admits.eq_of_disabled disabled).trans same
  | settled running settles => exact (settles.eq_of_disabled disabled).trans same
  | _ => exact same

/-- **The openings are remembered exactly.**  Take a breaker after any events.

Whatever happens next, the circuit stays in its state or goes its way, and it closes exactly if
a trial succeeds.  The breaker knows how many openings there have been since it last closed.
While it is closed there are none, no opening is remembered, and the wait is the one to begin
with.  While it is not closed there is at least one, the last one is remembered, and the wait is
the one after all openings but the last, which is never beyond the bound.  What has been
published last is the state.  A breaker that is not enabled stays as it is made. -/
theorem openings_remembered_exactly (name : String) (config : BreakerConfig)
    (events : List Event) :
    let new := ofBreaker (.make name config)
    let t := (new.run events).2
    let b := t.breaker
    (∀ event, let phase := (t.step event).2.breaker.phase
      (phase = b.phase ∨ b.phase.Goes phase) ∧
      ((t.moment event).closes = true ↔
        ∃ ticket, event = .finish ticket .success ∧ t.inFlight.get? ticket = some .trial)) ∧
    b.openings = openingsInARow (new.history events) ∧
    (b.phase = .closed →
      b.openings = 0 ∧ b.circuit.lastOpening? = none ∧ b.coolDown = config.coolDown) ∧
    (b.phase ≠ .closed →
      1 ≤ b.openings ∧ (∃ last, b.circuit.lastOpening? = some last) ∧
      b.coolDown = config.coolDownFor (b.openings - 1) ∧
      b.coolDown ≤ max config.coolDown config.maxCoolDown) ∧
    b.watch.latest = b.phase ∧
    (config.enabled = false → b = .make name config) := by
  intro new t b
  have remembers : t.Remembers (new.history events) := remembers_run name config events
  have same : b.config = config := (frame_run new events).1
  refine ⟨fun event => ?_, remembers.openings, fun closed => ?_, fun away => ?_,
    remembers.latest, fun off => breaker_run_of_disabled name off events⟩
  · have move := t.moves_step event
    exact ⟨(remembers.accounted.changes move).goes, remembers.accounted.closes_iff move⟩
  · have forgotten : b.circuit.lastOpening? = none := Breaker.lastOpening?_eq_none_iff.mpr closed
    refine ⟨?_, forgotten, ?_⟩
    · unfold Breaker.openings Circuit.openings
      rw [forgotten]
    · unfold Breaker.coolDown
      rw [forgotten, same]
      exact config.coolDownFor_zero
  · obtain ⟨last, remembered⟩ : ∃ last, b.circuit.lastOpening? = some last :=
      Option.ne_none_iff_exists'.mp (mt Breaker.lastOpening?_eq_none_iff.mp away)
    have wait : last.coolDown = config.coolDownFor (last.count - 1) := by
      rw [← same]
      exact remembers.coolDown remembered
    rw [Breaker.openings_of_lastOpening? remembered,
      Breaker.coolDown_of_lastOpening? remembered]
    refine ⟨remembers.count_pos remembered, ⟨last, remembered⟩, wait, ?_⟩
    rw [wait]
    exact config.coolDownFor_le _

end Traffic

end Gatehouse
