import Gatehouse.Proofs.Breaker.Moves

/-!
# The trial slot

A half-open circuit has one slot for a trial.  The breaker knows by a flag whether the slot
is taken, and by nothing else: which call has it is written on that call's permit, and the
call may end at any time later, in any way.

The invariant is that the slot has a *holder* (`Accounted.holder`): flag and permits are the
two views of one optional ticket.  A leaked slot would be a flag without a holder, and a
duplicated one a second permit beside it.

### What is load-bearing

A trial permit is issued only while the flag is down, and then nobody holds one.  So there
is no trial in flight while the circuit is closed or open, and no end of an ordinary call
finds the flag up and takes it down.  It takes both to see that the end of a trial, which
does not look at the circuit, never meets another trial's flag.

That a breaker which is not enabled stays closed (`Accounted.atRest`) is needed because there
the ends of calls do nothing, not even for a trial.
-/

namespace Gatehouse

namespace Breaker

/-! ## The flag -/

theorem circuit_of_isOnTrial {b : Breaker} (up : b.circuit.isOnTrial = true) :
    ∃ last, b.circuit = .halfOpen last true := by
  cases circuit : b.circuit with
  | closed failures => rw [circuit] at up; cases up
  | opened last => rw [circuit] at up; cases up
  | halfOpen last onTrial =>
    rw [circuit] at up
    exact ⟨last, by rw [show onTrial = true from up]⟩

/-- The flag is up in no state but the half-open one. -/
theorem phase_of_isOnTrial {b : Breaker} (up : b.circuit.isOnTrial = true) :
    b.phase = .halfOpen := by
  obtain ⟨last, circuit⟩ := circuit_of_isOnTrial up
  exact phase_of_halfOpen circuit

/-- **The end of a trial takes the flag down**, whatever the end is. -/
theorem Settles.isOnTrial_of_trial {b c : Breaker} {now : Nat} {ending : Ending}
    (settles : b.Settles now .trial ending c) (on : b.config.enabled = true) :
    c.circuit.isOnTrial = false := by
  cases settles with
  | disabled off => rw [on] at off; cases off
  | recovered on => rfl
  | relapsed on => rfl
  | undecided on neutral => exact b.isOnTrial_endTrial

/-- **The end of an ordinary call leaves the flag as it is.** -/
theorem Settles.isOnTrial_of_ordinary {b c : Breaker} {now : Nat} {ending : Ending}
    (settles : b.Settles now .ordinary ending c) :
    c.circuit.isOnTrial = b.circuit.isOnTrial := by
  cases settles with
  | disabled off => rfl
  | cleared on circuit => rw [circuit]; rfl
  | tripped on circuit enough => rw [circuit]; rfl
  | counted on circuit few => rw [circuit]; rfl
  | uncounted on circuit neutral => rfl
  | late on away ending => rfl

/-- A breaker that is not enabled takes no notice of a call that starts. -/
theorem Admits.eq_of_disabled {b c : Breaker} {now : Nat} {permit : Permit}
    (admits : b.Admits now permit c) (off : b.config.enabled = false) : c = b := by
  cases admits with
  | disabled off => rfl
  | closed on circuit => rfl
  | opened on circuit ended => rw [off] at on; cases on
  | halfOpen on circuit => rw [off] at on; cases on

/-- A breaker that is not enabled takes no notice of the end of a call. -/
theorem Settles.eq_of_disabled {b c : Breaker} {now : Nat} {permit : Permit} {ending : Ending}
    (settles : b.Settles now permit ending c) (off : b.config.enabled = false) : c = b := by
  cases settles with
  | disabled off => rfl
  | late on away ending => rfl
  | uncounted on circuit neutral => rfl
  -- All other cases are about a breaker that is enabled.
  | _ on => rw [off] at on; cases on

end Breaker

namespace Traffic

/-! ## The invariant -/

/-- **The slot is accounted for.** -/
structure Accounted (t : Traffic) : Prop where
  /-- The tickets under way have been given out. -/
  issued : ∀ ticket permit, t.inFlight.get? ticket = some permit → ticket < t.issued
  /-- Flag and permits agree on who holds the slot. -/
  holder : ∃ holder : Option Nat, t.breaker.circuit.isOnTrial = holder.isSome ∧
    ∀ ticket, t.inFlight.get? ticket = some .trial ↔ holder = some ticket
  /-- Without being enabled the breaker never leaves its first state. -/
  atRest : t.breaker.config.enabled = false → t.breaker.circuit = .closed 0

theorem accounted_ofBreaker (name : String) (config : BreakerConfig) :
    (ofBreaker (.make name config)).Accounted where
  issued ticket permit running := by cases running
  holder := ⟨none, rfl, fun ticket => ⟨fun running => (by cases running), fun h => (by cases h)⟩⟩
  atRest _ := rfl

namespace Accounted

variable {t : Traffic}

/-- The next ticket is not in use. -/
theorem fresh (accounted : t.Accounted) : t.inFlight.get? t.issued = none := by
  cases running : t.inFlight.get? t.issued with
  | none => rfl
  | some permit => exact absurd (accounted.issued t.issued permit running) (Nat.lt_irrefl _)

/-- **While the flag is down nobody is on trial.** -/
theorem no_trial (accounted : t.Accounted) (down : t.breaker.circuit.isOnTrial = false)
    (ticket : Nat) : t.inFlight.get? ticket ≠ some .trial := by
  obtain ⟨holder, flag, permits⟩ := accounted.holder
  intro running
  rw [(permits ticket).mp running, down] at flag
  cases flag

/-- **During a trial the circuit is half open.** -/
theorem halfOpen_of_trial (accounted : t.Accounted) {ticket : Nat}
    (running : t.inFlight.get? ticket = some .trial) : t.breaker.phase = .halfOpen := by
  cases flag : t.breaker.circuit.isOnTrial with
  | true => exact Breaker.phase_of_isOnTrial flag
  | false => exact absurd running (accounted.no_trial flag ticket)

/-- A circuit that is not closed belongs to a breaker that is enabled. -/
theorem enabled_of_phase (accounted : t.Accounted) (away : t.breaker.phase ≠ .closed) :
    t.breaker.config.enabled = true := by
  cases enabled : t.breaker.config.enabled with
  | true => rfl
  | false => exact absurd (Breaker.phase_of_circuit (accounted.atRest enabled)) away

theorem issued_set (accounted : t.Accounted) (permit : Permit) :
    ∀ ticket given, (t.inFlight.set t.issued permit).get? ticket = some given →
      ticket < t.issued + 1 := by
  intro ticket given running
  rw [Ledger.get?_set] at running
  split at running
  · omega
  · have := accounted.issued ticket given running
    omega

/-- An ordinary call that starts does not touch the slot. -/
theorem admit_ordinary (accounted : t.Accounted) :
    Accounted { t with issued := t.issued + 1, inFlight := t.inFlight.set t.issued .ordinary } where
  issued := accounted.issued_set .ordinary
  holder := by
    obtain ⟨holder, flag, permits⟩ := accounted.holder
    -- The holder stays who it is: the new ticket is not in use, and is no trial's now.
    refine ⟨holder, flag, fun ticket => ?_⟩
    rw [← permits ticket]
    dsimp only
    rw [Ledger.get?_set]
    split
    · rename_i same
      rw [← same, accounted.fresh]
      simp
    · rfl
  atRest := accounted.atRest

/-- A trial that starts takes the slot, which nobody has. -/
theorem admit_trial (accounted : t.Accounted) (down : t.breaker.circuit.isOnTrial = false)
    {breaker : Breaker} (on : breaker.config.enabled = true)
    (up : breaker.circuit.isOnTrial = true) :
    Accounted { t with
      breaker, issued := t.issued + 1, inFlight := t.inFlight.set t.issued .trial } where
  issued := accounted.issued_set .trial
  holder := by
    refine ⟨some t.issued, up, fun ticket => ?_⟩
    dsimp only
    rw [Ledger.get?_set, Option.some_inj]
    split
    · rename_i same
      exact ⟨fun _ => same, fun _ => rfl⟩
    · rename_i other
      exact ⟨fun running => absurd running (accounted.no_trial down ticket),
        fun same => absurd same other⟩
  atRest off := by rw [on] at off; cases off

theorem issued_erase (accounted : t.Accounted) (ticket : Nat) :
    ∀ other given, (t.inFlight.erase ticket).get? other = some given → other < t.issued := by
  intro other given running
  rw [Ledger.get?_erase] at running
  split at running
  · cases running
  · exact accounted.issued other given running

/-- An ordinary call that ends does not touch the slot. -/
theorem settle_ordinary (accounted : t.Accounted) {ticket : Nat}
    (running : t.inFlight.get? ticket = some .ordinary) {ending : Ending} {breaker : Breaker}
    (settles : t.breaker.Settles t.now .ordinary ending breaker) :
    Accounted { t with breaker, inFlight := t.inFlight.erase ticket } where
  issued := accounted.issued_erase ticket
  holder := by
    obtain ⟨holder, flag, permits⟩ := accounted.holder
    refine ⟨holder, settles.isOnTrial_of_ordinary.trans flag, fun other => ?_⟩
    rw [← permits other]
    dsimp only
    rw [Ledger.get?_erase]
    split
    · rename_i same
      rw [← same, running]
      simp
    · rfl
  atRest off := by
    have was : t.breaker.config.enabled = false := by rw [← settles.frame.1]; exact off
    have same : breaker = t.breaker := settles.eq_of_disabled was
    show breaker.circuit = .closed 0
    rw [same]
    exact accounted.atRest was

/-- A trial that ends gives the slot back, and nobody else has it. -/
theorem settle_trial (accounted : t.Accounted) {ticket : Nat}
    (running : t.inFlight.get? ticket = some .trial) {ending : Ending} {breaker : Breaker}
    (settles : t.breaker.Settles t.now .trial ending breaker) :
    Accounted { t with breaker, inFlight := t.inFlight.erase ticket } := by
  obtain ⟨holder, flag, permits⟩ := accounted.holder
  have held : holder = some ticket := (permits ticket).mp running
  have on : t.breaker.config.enabled = true :=
    accounted.enabled_of_phase (by rw [accounted.halfOpen_of_trial running]; decide)
  refine ⟨accounted.issued_erase ticket, ⟨none, ?_, fun other => ?_⟩, fun off => ?_⟩
  · exact settles.isOnTrial_of_trial on
  · dsimp only
    rw [Ledger.get?_erase]
    split
    · simp
    · rename_i ne
      rw [permits other, held, Option.some_inj]
      simp [ne]
  · rw [settles.frame.1, on] at off
    cases off

/-- **Every move keeps the slot accounted for.** -/
theorem moves (accounted : t.Accounted) {next : Traffic} {event : Event} {reply : Reply}
    (move : t.Moves event reply next) : next.Accounted := by
  cases move with
  | rejected rejects => exact accounted
  | admitted admits =>
    cases admits with
    | disabled off => exact accounted.admit_ordinary
    | closed on circuit => exact accounted.admit_ordinary
    | opened on circuit ended =>
      exact accounted.admit_trial (by rw [circuit]; rfl) on rfl
    | halfOpen on circuit =>
      exact accounted.admit_trial (by rw [circuit]; rfl) on rfl
  | @settled ticket permit ending breaker running settles =>
    cases permit with
    | ordinary => exact accounted.settle_ordinary running settles
    | trial => exact accounted.settle_trial running settles
  | notRunning unknown ending => exact accounted
  | passed nanoseconds => exact ⟨accounted.issued, accounted.holder, accounted.atRest⟩

end Accounted

/-- The slot is accounted for in whatever can happen to a new breaker. -/
theorem accounted_run (name : String) (config : BreakerConfig) (events : List Event) :
    ((ofBreaker (.make name config)).run events).2.Accounted :=
  run_preserves (fun accounted move => accounted.moves move) (accounted_ofBreaker name config)
    events

/-- **The trial slot neither leaks nor doubles.**  After any events at a new breaker, at most
one call in flight is a trial.  The flag is up exactly if one is, and then the circuit is half
open.  So a call is rejected exactly if the circuit is open and its wait is not over, or half
open with another call really on trial. -/
theorem trial_slot_exact (name : String) (config : BreakerConfig) (events : List Event) :
    let t := ((ofBreaker (.make name config)).run events).2
    (∀ i j, t.inFlight.get? i = some .trial → t.inFlight.get? j = some .trial → i = j) ∧
    (t.breaker.circuit.isOnTrial = true ↔ ∃ ticket, t.inFlight.get? ticket = some .trial) ∧
    (t.breaker.circuit.isOnTrial = true → t.breaker.phase = .halfOpen) ∧
    ((∃ error, (t.step .start).1 = .rejected error) ↔
      (∃ last, t.breaker.circuit = .opened last ∧
        t.now < last.since + last.coolDown * millisecond) ∨
      t.breaker.phase = .halfOpen ∧ ∃ ticket, t.inFlight.get? ticket = some .trial) := by
  intro t
  have accounted : t.Accounted := accounted_run name config events
  obtain ⟨holder, flag, permits⟩ := accounted.holder
  have taken : t.breaker.circuit.isOnTrial = true ↔
      ∃ ticket, t.inFlight.get? ticket = some .trial := by
    rw [flag, Option.isSome_iff_exists]
    exact exists_congr fun ticket => (permits ticket).symm
  refine ⟨fun i j hi hj => ?_, taken, Breaker.phase_of_isOnTrial, ?_⟩
  · have same : some i = some j := ((permits i).mp hi).symm.trans ((permits j).mp hj)
    exact Option.some.inj same
  · rw [rejected_start_iff]
    constructor
    · rintro ⟨wait, rejects⟩
      cases rejects with
      | opened on circuit waiting =>
        exact Or.inl ⟨_, circuit, Opening.waitLeft_ne_zero_iff.mp waiting⟩
      | halfOpen on circuit =>
        have up : t.breaker.circuit.isOnTrial = true := by rw [circuit]; rfl
        exact Or.inr ⟨Breaker.phase_of_isOnTrial up, taken.mp up⟩
    · rintro (⟨last, circuit, early⟩ | ⟨halfOpen, someone⟩)
      · have away : t.breaker.phase ≠ .closed := by
          rw [Breaker.phase_of_opened circuit]
          decide
        have on := accounted.enabled_of_phase away
        exact ⟨_, .opened on circuit (Opening.waitLeft_ne_zero_iff.mpr early)⟩
      · have on := accounted.enabled_of_phase (by rw [halfOpen]; decide)
        obtain ⟨last, circuit⟩ := Breaker.circuit_of_isOnTrial (taken.mpr someone)
        exact ⟨0, .halfOpen on circuit⟩

end Traffic

end Gatehouse
