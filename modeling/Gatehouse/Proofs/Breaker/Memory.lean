import Gatehouse.Proofs.Breaker.Changes

/-!
# The memory of a breaker, field by field

A circuit keeps with each state what has to be remembered in it.  The same memory can be laid
out flat, as six fields that are there in every state and are assigned one by one.  Here the two
layouts are shown to be the same.

* `Breaker.memory` reads the fields off the circuit, one state at a time (`memory_of_closed`,
  `memory_of_opened`, `memory_of_halfOpen`), and the circuit can be read off the fields again
  (`circuit_memory`).
* `BreakerMemory.admission` and `BreakerMemory.settle` are the operations once more, written as
  assignments to the fields.  Reading the fields commutes with both (`memory_admission`,
  `Settles.memory`), so every change of state moves the fields together.
* `FlatTraffic` runs on the fields alone.  From a new breaker on it gives the same replies as
  `Traffic` to whatever happens (`flat_run`).

### What is load-bearing

The fields know when the circuit opened, and compare the time that has gone by with the wait.
The circuit compares the present instant with the end of the wait.  The two comparisons agree
if the circuit has not opened in the future, which is a fact about runs (`Remembers.since`).
-/

namespace Gatehouse

/-- What a breaker remembers, laid out flat. -/
structure BreakerMemory where
  phase : Phase
  /-- The failures in a row while the circuit is closed. -/
  failures : Nat
  /-- The instant of the last opening, until the circuit closes. -/
  openedAt : Option Nat
  /-- The wait of the last opening in milliseconds. -/
  coolDown : Nat
  /-- The openings since the circuit was closed. -/
  openings : Nat
  /-- A trial has begun and not ended. -/
  onTrial : Bool
  deriving DecidableEq, Repr

namespace BreakerMemory

/-- Before the first call. -/
def start (config : BreakerConfig) : BreakerMemory where
  phase := .closed
  failures := 0
  openedAt := none
  coolDown := config.coolDownFor 0
  openings := 0
  onTrial := false

/-- The circuit opens. -/
def trip (m : BreakerMemory) (config : BreakerConfig) (now : Nat) : BreakerMemory where
  coolDown := config.coolDownFor m.openings
  openings := m.openings + 1
  openedAt := some now
  failures := 0
  onTrial := false
  phase := .opened

/-- The time since the last opening, or none if there has been none. -/
def elapsed (m : BreakerMemory) (now : Nat) : Nat := (m.openedAt.map (now - ·)).getD 0

/-- Ask for a permit. -/
def admission (m : BreakerMemory) (config : BreakerConfig) (now : Nat) :
    Except Nat (Permit × BreakerMemory) :=
  if config.enabled then
    match m.phase with
    | .closed => .ok (.ordinary, m)
    | .opened =>
      if m.coolDown * millisecond ≤ m.elapsed now then
        .ok (.trial, { m with phase := .halfOpen, onTrial := true })
      else .error (m.coolDown * millisecond - m.elapsed now)
    | .halfOpen => if m.onTrial then .error 0 else .ok (.trial, { m with onTrial := true })
  else .ok (.ordinary, m)

/-- Report the end of a call.  A circuit that closes remembers what a new one does. -/
def settle (m : BreakerMemory) (config : BreakerConfig) (now : Nat) (permit : Permit)
    (ending : Ending) : BreakerMemory :=
  if config.enabled then
    match ending, permit with
    | .success, .trial => start config
    | .success, .ordinary => if m.phase = .closed then { m with failures := 0 } else m
    | .countedFailure, .trial => m.trip config now
    | .countedFailure, .ordinary =>
      if m.phase = .closed then
        if config.failureThreshold ≤ m.failures + 1 then m.trip config now
        else { m with failures := m.failures + 1 }
      else m
    | .otherFailure, .trial => { m with onTrial := false }
    | .otherFailure, .ordinary => m
    | .abandoned, .trial => { m with onTrial := false }
    | .abandoned, .ordinary => m
  else m

/-- The circuit that the fields are of. -/
def circuit (m : BreakerMemory) : Circuit :=
  let last : Opening := ⟨m.openedAt.getD 0, m.coolDown, m.openings⟩
  match m.phase with
  | .closed => .closed m.failures
  | .opened => .opened last
  | .halfOpen => .halfOpen last m.onTrial

end BreakerMemory

namespace Breaker

/-- The fields as the circuit has them. -/
def memory (b : Breaker) : BreakerMemory where
  phase := b.phase
  failures := b.failures
  openedAt := b.circuit.lastOpening?.map (·.since)
  coolDown := b.coolDown
  openings := b.openings
  onTrial := b.circuit.isOnTrial

variable {b c : Breaker} {now : Nat}

theorem memory_of_closed {failures : Nat} (circuit : b.circuit = .closed failures) :
    b.memory = { BreakerMemory.start b.config with failures } := by
  unfold memory phase Breaker.failures coolDown openings
  rw [circuit]
  rfl

theorem memory_of_opened {last : Opening} (circuit : b.circuit = .opened last) :
    b.memory = ⟨.opened, 0, some last.since, last.coolDown, last.count, false⟩ := by
  unfold memory phase failures coolDown openings
  rw [circuit]
  rfl

theorem memory_of_halfOpen {last : Opening} {onTrial : Bool}
    (circuit : b.circuit = .halfOpen last onTrial) :
    b.memory = ⟨.halfOpen, 0, some last.since, last.coolDown, last.count, onTrial⟩ := by
  unfold memory phase failures coolDown openings
  rw [circuit]
  rfl

/-- **Nothing is lost in the fields.** -/
theorem circuit_memory (b : Breaker) : b.memory.circuit = b.circuit := by
  cases circuit : b.circuit with
  | closed failures => rw [memory_of_closed circuit]; rfl
  | opened last => rw [memory_of_opened circuit]; rfl
  | halfOpen last onTrial => rw [memory_of_halfOpen circuit]; rfl

/-! ## The changes of state -/

theorem memory_make (name : String) (config : BreakerConfig) :
    (make name config).memory = .start config := rfl

theorem memory_trip (b : Breaker) (now : Nat) :
    (b.trip now).memory = b.memory.trip b.config now := rfl

theorem memory_close (b : Breaker) : b.close.memory = .start b.config := rfl

theorem memory_endTrial (b : Breaker) : b.endTrial.memory = { b.memory with onTrial := false } := by
  unfold endTrial
  cases circuit : b.circuit with
  | closed failures => rw [memory_of_closed circuit]; rfl
  | opened last => rw [memory_of_opened circuit]
  | halfOpen last onTrial => rw [memory_of_halfOpen circuit]; rfl

/-! ## Settlement and admission -/

/-- **Each end of a call assigns the fields that it has to**, and no others. -/
theorem Settles.memory {permit : Permit} {ending : Ending}
    (settles : b.Settles now permit ending c) :
    c.memory = b.memory.settle b.config now permit ending := by
  unfold BreakerMemory.settle
  cases settles with
  | disabled off => simp [off]
  | recovered on =>
    rw [if_pos on]
    exact b.memory_close
  | relapsed on =>
    rw [if_pos on]
    exact b.memory_trip now
  | undecided on neutral =>
    rw [memory_endTrial, if_pos on]
    rcases neutral with rfl | rfl <;> rfl
  | cleared on circuit =>
    rw [memory_of_closed circuit, if_pos on]
    rfl
  | tripped on circuit enough =>
    rw [memory_trip, memory_of_closed circuit, if_pos on]
    exact (if_pos enough).symm
  | counted on circuit few =>
    rw [memory_of_closed circuit, if_pos on]
    exact (if_neg (Nat.not_le_of_lt few)).symm
  | uncounted on circuit neutral =>
    rw [if_pos on]
    rcases neutral with rfl | rfl <;> rfl
  | late on away ending =>
    have notClosed : b.memory.phase ≠ .closed :=
      fun closed => away _ (phase_eq_closed_iff.mp closed)
    rw [if_pos on]
    cases ending with
    | success => exact (if_neg notClosed).symm
    | countedFailure => exact (if_neg notClosed).symm
    | otherFailure => rfl
    | abandoned => rfl

/-- **Asking for a permit is the same on the fields**, if the circuit has not opened in the
future. -/
theorem memory_admission
    (past : ∀ last, b.circuit.lastOpening? = some last → last.since ≤ now) :
    (b.admission now).map (Prod.map id Breaker.memory) = b.memory.admission b.config now := by
  -- In an open circuit what is left of the wait is what has not gone by.
  have left {last : Opening} (circuit : b.circuit = .opened last) :
      last.waitLeft now = last.coolDown * millisecond - b.memory.elapsed now := by
    have since : last.since ≤ now := past last (by rw [circuit]; rfl)
    have elapsed : b.memory.elapsed now = now - last.since := by
      rw [memory_of_opened circuit]
      rfl
    rw [elapsed]
    unfold Opening.waitLeft
    omega
  unfold BreakerMemory.admission
  cases asked : b.admission now with
  | ok granted =>
    obtain ⟨permit, c⟩ := granted
    cases admission_eq_ok_iff.mp asked with
    | disabled off =>
      rw [off]
      rfl
    | closed on circuit =>
      have closed : b.memory.phase = .closed := phase_of_circuit circuit
      rw [if_pos on, closed]
      rfl
    | opened on circuit ended =>
      have gone := Nat.le_of_sub_eq_zero ((left circuit).symm.trans ended)
      rw [memory_of_opened circuit] at gone ⊢
      rw [if_pos on]
      exact (if_pos gone).symm
    | halfOpen on circuit =>
      rw [if_pos on, memory_of_halfOpen circuit]
      rfl
  | error wait =>
    cases admission_eq_error_iff.mp asked with
    | opened on circuit waiting =>
      have cut := left circuit
      have early := mt (fun gone => cut.trans (Nat.sub_eq_zero_of_le gone)) waiting
      rw [cut, if_pos on]
      rw [memory_of_opened circuit] at early ⊢
      exact (if_neg early).symm
    | halfOpen on circuit =>
      rw [if_pos on, memory_of_halfOpen circuit]
      rfl

end Breaker

/-! ## Traffic on the fields -/

/-- Calls that are under way at a breaker that has the fields and no circuit. -/
structure FlatTraffic where
  memory : BreakerMemory
  now : Nat
  issued : Nat
  inFlight : Ledger Nat Permit

namespace FlatTraffic

open Traffic (Event Reply)

/-- The traffic after an event. -/
def step (name : String) (config : BreakerConfig) (t : FlatTraffic) : Event → Reply × FlatTraffic
  | .start =>
    match t.memory.admission config t.now with
    | .error retryAfter => (.rejected (.circuitOpen name retryAfter), t)
    | .ok (permit, memory) =>
      (.admitted t.issued, { t with
        memory, issued := t.issued + 1, inFlight := t.inFlight.set t.issued permit })
  | .finish ticket ending =>
    match t.inFlight.get? ticket with
    | none => (.notRunning, t)
    | some permit =>
      (.settled, { t with
        memory := t.memory.settle config t.now permit ending
        inFlight := t.inFlight.erase ticket })
  | .pass nanoseconds => (.passed, { t with now := t.now + nanoseconds })

/-- The traffic after some events, with the replies to them. -/
def run (name : String) (config : BreakerConfig) (t : FlatTraffic) :
    List Event → List Reply × FlatTraffic
  | [] => ([], t)
  | event :: events =>
    let (reply, next) := t.step name config event
    let (replies, last) := next.run name config events
    (reply :: replies, last)

end FlatTraffic

namespace Traffic

/-- The traffic with the fields in place of the breaker. -/
def flat (t : Traffic) : FlatTraffic := ⟨t.breaker.memory, t.now, t.issued, t.inFlight⟩

/-- **An event is the same on the fields.** -/
theorem flat_step {t : Traffic} {past : List Moment} (remembers : t.Remembers past)
    (event : Event) :
    t.flat.step t.breaker.name t.breaker.config event =
      ((t.step event).1, (t.step event).2.flat) := by
  cases event with
  | start =>
    have asked := Breaker.memory_admission remembers.since
    unfold FlatTraffic.step step start flat
    dsimp only
    rw [← asked]
    cases t.breaker.admission t.now with
    | error wait => rfl
    | ok granted => rfl
  | finish ticket ending =>
    unfold FlatTraffic.step step finish? flat
    dsimp only
    cases t.inFlight.get? ticket with
    | none => rfl
    | some permit =>
      have settled := (t.breaker.settles_settle t.now permit ending).memory
      dsimp only [Option.map]
      rw [← settled]
  | pass nanoseconds => rfl

theorem flat_run_of_remembers {t : Traffic} {past : List Moment} (remembers : t.Remembers past)
    (events : List Event) :
    t.flat.run t.breaker.name t.breaker.config events =
      ((t.run events).1, (t.run events).2.flat) := by
  induction events generalizing t past with
  | nil => rfl
  | cons event events ih =>
    obtain ⟨config, name⟩ := frame_run t [event]
    have rest := ih (remembers.moves (t.moves_step event))
    rw [show (t.step event).2.breaker.config = t.breaker.config from config,
      show (t.step event).2.breaker.name = t.breaker.name from name] at rest
    unfold FlatTraffic.run
    rw [flat_step remembers, run_cons]
    dsimp only
    rw [rest]

/-- **A breaker that has the fields and no circuit is no different.**  Whatever happens at a new
one, all replies are the same as with the circuit.  Afterwards the fields are those that are read
off the circuit, which can be read off them again. -/
theorem flat_run (name : String) (config : BreakerConfig) (events : List Event) :
    let new := ofBreaker (.make name config)
    let flat := FlatTraffic.run name config ⟨.start config, 0, 0, .empty⟩ events
    flat.1 = (new.run events).1 ∧ flat.2 = (new.run events).2.flat ∧
      flat.2.memory.circuit = (new.run events).2.breaker.circuit := by
  intro new flat
  have same : flat = ((new.run events).1, (new.run events).2.flat) :=
    flat_run_of_remembers (remembers_run name config []) events
  rw [same]
  exact ⟨rfl, rfl, (new.run events).2.breaker.circuit_memory⟩

end Traffic

end Gatehouse
