import Gatehouse.Breaker.Traffic

/-!
# What can happen to a breaker

Everything that one event can do to the traffic through a breaker is said here once, as
relations whose cases have names.

* `Breaker.Admits`, `Breaker.Rejects` — the two ways in which a request for a permit can end,
  and when.
* `Breaker.Settles` — what the end of a call can mean to the breaker.
* `Traffic.Moves` — an event, the reply to it and the traffic afterwards.

They say the same as the functions (`admission_eq_ok_iff`, `admission_eq_error_iff`,
`settles_settle`, `moves_step`), and are used in place of them: an invariant is shown by cases
on `Moves` and holds along every run by `run_preserves`.
-/

namespace Gatehouse

/-- Something is left of a wait until its end. -/
theorem Opening.waitLeft_ne_zero_iff {last : Opening} {now : Nat} :
    last.waitLeft now ≠ 0 ↔ now < last.since + last.coolDown * millisecond := by
  unfold waitLeft
  omega

namespace Breaker

/-- **How a call is admitted**: with this permit, and with this breaker afterwards. -/
inductive Admits (b : Breaker) (now : Nat) : Permit → Breaker → Prop where
  | disabled (off : b.config.enabled = false) : Admits b now .ordinary b
  | closed {failures : Nat} (on : b.config.enabled = true)
      (circuit : b.circuit = .closed failures) : Admits b now .ordinary b
  /-- The wait is over. -/
  | opened {last : Opening} (on : b.config.enabled = true) (circuit : b.circuit = .opened last)
      (ended : last.waitLeft now = 0) : Admits b now .trial (b.enter (.halfOpen last true))
  /-- An earlier trial has ended without a result. -/
  | halfOpen {last : Opening} (on : b.config.enabled = true)
      (circuit : b.circuit = .halfOpen last false) :
      Admits b now .trial { b with circuit := .halfOpen last true }

/-- **How a call is rejected**: with this wait until the next attempt. -/
inductive Rejects (b : Breaker) (now : Nat) : Nat → Prop where
  | opened {last : Opening} (on : b.config.enabled = true) (circuit : b.circuit = .opened last)
      (waiting : last.waitLeft now ≠ 0) : Rejects b now (last.waitLeft now)
  /-- Another call is the trial. -/
  | halfOpen {last : Opening} (on : b.config.enabled = true)
      (circuit : b.circuit = .halfOpen last true) : Rejects b now 0

theorem admission_eq_ok_iff {b c : Breaker} {now : Nat} {permit : Permit} :
    b.admission now = .ok (permit, c) ↔ b.Admits now permit c := by
  constructor
  · intro h
    unfold admission at h
    split at h
    · rename_i on
      split at h
      · rename_i circuit
        cases h
        exact .closed on circuit
      · rename_i circuit
        split at h
        · rename_i ended
          cases h
          exact .opened on circuit ended
        · cases h
      · rename_i circuit
        cases h
        exact .halfOpen on circuit
      · cases h
    · rename_i off
      cases h
      exact .disabled (Bool.eq_false_iff.mpr off)
  · intro admits
    cases admits with
    | disabled off => simp [admission, off]
    | closed on circuit => simp [admission, on, circuit]
    | opened on circuit ended => simp [admission, on, circuit, ended]
    | halfOpen on circuit => simp [admission, on, circuit]

theorem admission_eq_error_iff {b : Breaker} {now wait : Nat} :
    b.admission now = .error wait ↔ b.Rejects now wait := by
  constructor
  · intro h
    unfold admission at h
    split at h
    · rename_i on
      split at h
      · cases h
      · rename_i circuit
        split at h
        · cases h
        · rename_i waiting
          cases h
          exact .opened on circuit waiting
      · cases h
      · rename_i circuit
        cases h
        exact .halfOpen on circuit
    · cases h
  · intro rejects
    cases rejects with
    | opened on circuit waiting => simp [admission, on, circuit, waiting]
    | halfOpen on circuit => simp [admission, on, circuit]

/-- **What the end of a call means**: the breaker after it. -/
inductive Settles (b : Breaker) (now : Nat) : Permit → Ending → Breaker → Prop where
  | disabled (off : b.config.enabled = false) (permit : Permit) (ending : Ending) :
      Settles b now permit ending b
  | recovered (on : b.config.enabled = true) : Settles b now .trial .success b.close
  | relapsed (on : b.config.enabled = true) : Settles b now .trial .countedFailure (b.trip now)
  /-- The trial has shown nothing, and another call may be the next one. -/
  | undecided {ending : Ending} (on : b.config.enabled = true)
      (neutral : ending = .otherFailure ∨ ending = .abandoned) :
      Settles b now .trial ending b.endTrial
  | cleared {failures : Nat} (on : b.config.enabled = true)
      (circuit : b.circuit = .closed failures) :
      Settles b now .ordinary .success { b with circuit := .closed 0 }
  | tripped {failures : Nat} (on : b.config.enabled = true)
      (circuit : b.circuit = .closed failures)
      (enough : b.config.failureThreshold ≤ failures + 1) :
      Settles b now .ordinary .countedFailure (b.trip now)
  | counted {failures : Nat} (on : b.config.enabled = true)
      (circuit : b.circuit = .closed failures)
      (few : failures + 1 < b.config.failureThreshold) :
      Settles b now .ordinary .countedFailure { b with circuit := .closed (failures + 1) }
  | uncounted {failures : Nat} {ending : Ending} (on : b.config.enabled = true)
      (circuit : b.circuit = .closed failures)
      (neutral : ending = .otherFailure ∨ ending = .abandoned) :
      Settles b now .ordinary ending b
  /-- The circuit has opened during the call. -/
  | late (on : b.config.enabled = true) (away : ∀ failures, b.circuit ≠ .closed failures)
      (ending : Ending) : Settles b now .ordinary ending b

theorem settles_settle (b : Breaker) (now : Nat) (permit : Permit) (ending : Ending) :
    b.Settles now permit ending (b.settle now permit ending) := by
  unfold settle
  split
  · rename_i on
    split
    · cases ending with
      | success => exact .recovered on
      | countedFailure => exact .relapsed on
      | otherFailure => exact .undecided on (Or.inl rfl)
      | abandoned => exact .undecided on (Or.inr rfl)
    · rename_i failures circuit
      cases ending with
      | success => exact .cleared on circuit
      | countedFailure =>
        unfold settleOrdinary
        dsimp only
        split
        · rename_i enough
          exact .tripped on circuit enough
        · rename_i few
          exact .counted on circuit (Nat.lt_of_not_le few)
      | otherFailure => exact .uncounted on circuit (Or.inl rfl)
      | abandoned => exact .uncounted on circuit (Or.inr rfl)
    · rename_i away
      exact .late on away ending
  · rename_i off
    exact .disabled (Bool.eq_false_iff.mpr off) permit ending

/-- Admitting a call leaves the settings and the name alone. -/
theorem Admits.frame {b c : Breaker} {now : Nat} {permit : Permit}
    (admits : b.Admits now permit c) : c.config = b.config ∧ c.name = b.name := by
  cases admits <;> exact ⟨rfl, rfl⟩

/-- The end of a call leaves the settings and the name alone. -/
theorem Settles.frame {b c : Breaker} {now : Nat} {permit : Permit} {ending : Ending}
    (settles : b.Settles now permit ending c) : c.config = b.config ∧ c.name = b.name := by
  cases settles with
  | undecided on neutral => exact ⟨b.config_endTrial, b.name_endTrial⟩
  | _ => exact ⟨rfl, rfl⟩

/-- **The end of an ordinary call does nothing** while the circuit is not closed. -/
theorem Settles.eq_of_away {b c : Breaker} {now : Nat} {ending : Ending}
    (settles : b.Settles now .ordinary ending c) (away : b.phase ≠ .closed) : c = b := by
  have absent : ∀ failures, b.circuit ≠ .closed failures :=
    fun failures circuit => away (phase_of_circuit circuit)
  cases settles with
  | disabled off => rfl
  | cleared on circuit => exact absurd circuit (absent _)
  | tripped on circuit enough => exact absurd circuit (absent _)
  | counted on circuit few => exact absurd circuit (absent _)
  | uncounted on circuit neutral => rfl
  | late on away => rfl

end Breaker

namespace Traffic

/-- **What one event can do**: the reply to it, and the traffic afterwards. -/
inductive Moves (t : Traffic) : Event → Reply → Traffic → Prop where
  | rejected {wait : Nat} (rejects : t.breaker.Rejects t.now wait) :
      Moves t .start (.rejected (t.rejection wait)) t
  | admitted {permit : Permit} {breaker : Breaker}
      (admits : t.breaker.Admits t.now permit breaker) :
      Moves t .start (.admitted t.issued)
        { t with breaker, issued := t.issued + 1, inFlight := t.inFlight.set t.issued permit }
  | settled {ticket : Nat} {permit : Permit} {ending : Ending} {breaker : Breaker}
      (running : t.inFlight.get? ticket = some permit)
      (settles : t.breaker.Settles t.now permit ending breaker) :
      Moves t (.finish ticket ending) .settled
        { t with breaker, inFlight := t.inFlight.erase ticket }
  | notRunning {ticket : Nat} (unknown : t.inFlight.get? ticket = none) (ending : Ending) :
      Moves t (.finish ticket ending) .notRunning t
  | passed (nanoseconds : Nat) : Moves t (.pass nanoseconds) .passed (t.pass nanoseconds)

theorem moves_step (t : Traffic) (event : Event) :
    t.Moves event (t.step event).1 (t.step event).2 := by
  cases event with
  | start =>
    unfold step start
    dsimp only
    cases asked : t.breaker.admission t.now with
    | error wait => exact .rejected (Breaker.admission_eq_error_iff.mp asked)
    | ok granted => exact .admitted (Breaker.admission_eq_ok_iff.mp asked)
  | finish ticket ending =>
    unfold step finish?
    dsimp only
    cases running : t.inFlight.get? ticket with
    | none => exact .notRunning running ending
    | some permit => exact .settled running (t.breaker.settles_settle t.now permit ending)
  | pass nanoseconds => exact .passed nanoseconds

theorem step_start_of_rejects {t : Traffic} {wait : Nat} (rejects : t.breaker.Rejects t.now wait) :
    t.step .start = (.rejected (t.rejection wait), t) := by
  unfold step start
  dsimp only
  rw [Breaker.admission_eq_error_iff.mpr rejects]

theorem step_start_of_admits {t : Traffic} {permit : Permit} {breaker : Breaker}
    (admits : t.breaker.Admits t.now permit breaker) :
    t.step .start = (.admitted t.issued, { t with
      breaker, issued := t.issued + 1, inFlight := t.inFlight.set t.issued permit }) := by
  unfold step start
  dsimp only
  rw [Breaker.admission_eq_ok_iff.mpr admits]

/-- A call is rejected if it gets no permit. -/
theorem rejected_start_iff {t : Traffic} :
    (∃ error, (t.step .start).1 = .rejected error) ↔ ∃ wait, t.breaker.Rejects t.now wait := by
  constructor
  · rintro ⟨error, rejected⟩
    cases asked : t.breaker.admission t.now with
    | ok granted =>
      rw [step_start_of_admits (Breaker.admission_eq_ok_iff.mp asked)] at rejected
      cases rejected
    | error wait => exact ⟨wait, Breaker.admission_eq_error_iff.mp asked⟩
  · rintro ⟨wait, rejects⟩
    rw [step_start_of_rejects rejects]
    exact ⟨_, rfl⟩

/-! ## Runs -/

/-- **Invariants hold along runs**: what every move preserves is never lost. -/
theorem run_preserves {P : Traffic → Prop}
    (keeps : ∀ {t next : Traffic} {event : Event} {reply : Reply},
      P t → t.Moves event reply next → P next)
    {t : Traffic} (initial : P t) (events : List Event) : P (t.run events).2 := by
  induction events generalizing t with
  | nil => exact initial
  | cons event events ih => exact ih (keeps initial (t.moves_step event))

theorem run_append (t : Traffic) (events more : List Event) :
    (t.run (events ++ more)).2 = ((t.run events).2.run more).2 := by
  induction events generalizing t with
  | nil => rfl
  | cons event events ih => exact ih (t.step event).2

/-- The settings and the name of the breaker never change. -/
theorem frame_run (t : Traffic) (events : List Event) :
    (t.run events).2.breaker.config = t.breaker.config ∧
      (t.run events).2.breaker.name = t.breaker.name := by
  refine run_preserves (P := fun u =>
    u.breaker.config = t.breaker.config ∧ u.breaker.name = t.breaker.name) ?_ ⟨rfl, rfl⟩ events
  rintro u next event reply ⟨config, name⟩ move
  cases move with
  | rejected rejects => exact ⟨config, name⟩
  | admitted admits => exact ⟨admits.frame.1.trans config, admits.frame.2.trans name⟩
  | settled running settles =>
    exact ⟨settles.frame.1.trans config, settles.frame.2.trans name⟩
  | notRunning unknown ending => exact ⟨config, name⟩
  | passed nanoseconds => exact ⟨config, name⟩

/-- The clock never goes back. -/
theorem now_le_of_moves {t next : Traffic} {event : Event} {reply : Reply}
    (move : t.Moves event reply next) : t.now ≤ next.now := by
  cases move with
  | passed nanoseconds => exact Nat.le_add_right t.now nanoseconds
  | _ => exact Nat.le_refl t.now

theorem now_le_run (t : Traffic) (events : List Event) : t.now ≤ (t.run events).2.now :=
  run_preserves (P := fun u => t.now ≤ u.now)
    (fun earlier move => Nat.le_trans earlier (now_le_of_moves move)) (Nat.le_refl t.now) events

end Traffic

end Gatehouse
