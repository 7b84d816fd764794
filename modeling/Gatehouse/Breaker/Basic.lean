import Gatehouse.Breaker.Circuit
import Gatehouse.Breaker.Config
import Gatehouse.Text.Quoted

/-!
# Circuit breakers

A circuit breaker stands in front of something that may fail, and keeps calls away
from it while it does.  A call asks to be admitted, runs with the permit it gets, and
reports how it has ended.

* `admission` — a closed circuit admits every call.  An open one admits none until its
  wait is over; the first call after that is a trial and makes the circuit half open.
  A half-open circuit admits one trial at a time.
* `settle` — failures in a row of a kind that counts open a closed circuit.  A trial
  closes the circuit or opens it again, and if it has failed in a way that does not
  count, or has not been brought to an end, another call may try.

Calls overlap.  A call that was admitted without being a trial may end when the
circuit is no longer closed, and then its end means nothing.  Permits do not say when
they were given.

Time enters as an argument, in nanoseconds.  A breaker that is not enabled admits
everything and never changes.
-/

namespace Gatehouse

/-- A circuit breaker. -/
structure Breaker where
  name : String
  config : BreakerConfig
  circuit : Circuit
  watch : Watch

/-- The right to run one call. -/
inductive Permit where
  | ordinary
  /-- The call is the trial of a half-open circuit. -/
  | trial
  deriving DecidableEq, Repr

/-- How a call has ended. -/
inductive Ending where
  | success
  /-- A failure of a kind that counts. -/
  | countedFailure
  /-- A failure of any other kind. -/
  | otherFailure
  /-- The call has been given up. -/
  | abandoned
  deriving DecidableEq, Repr

namespace Breaker

/-- A new breaker. -/
def make (name : String) (config : BreakerConfig) : Breaker :=
  ⟨name, config, .closed 0, .start⟩

/-- The state of the circuit.  An open circuit whose wait is over is open until a call
makes it half open. -/
def phase (b : Breaker) : Phase := b.circuit.phase

/-- The failures in a row while the circuit is closed. -/
def failures (b : Breaker) : Nat := b.circuit.failures

/-- The openings since the circuit was closed. -/
def openings (b : Breaker) : Nat := b.circuit.openings

/-- The wait of the last opening in milliseconds, or the one that an opening would
begin with. -/
def coolDown (b : Breaker) : Nat :=
  match b.circuit.lastOpening? with
  | none => b.config.coolDownFor 0
  | some last => last.coolDown

/-- A summary on one line. -/
def summary (b : Breaker) : String :=
  "CircuitBreaker \x7b name: " ++ Text.quoted b.name ++ ", state: " ++ b.phase.title ++ " \x7d"

theorem phase_of_circuit {b : Breaker} {failures : Nat} (circuit : b.circuit = .closed failures) :
    b.phase = .closed := congrArg Circuit.phase circuit

theorem phase_of_opened {b : Breaker} {last : Opening} (circuit : b.circuit = .opened last) :
    b.phase = .opened := congrArg Circuit.phase circuit

theorem phase_of_halfOpen {b : Breaker} {last : Opening} {onTrial : Bool}
    (circuit : b.circuit = .halfOpen last onTrial) : b.phase = .halfOpen :=
  congrArg Circuit.phase circuit

theorem failures_of_circuit {b : Breaker} {failures : Nat}
    (circuit : b.circuit = .closed failures) : b.failures = failures := congrArg Circuit.failures circuit

theorem phase_eq_closed_iff {b : Breaker} :
    b.phase = .closed ↔ b.circuit = .closed b.failures := by
  unfold phase failures
  cases b.circuit <;> simp [Circuit.phase, Circuit.failures]

/-! ## Changes of state -/

/-- Change the state and publish it. -/
def enter (b : Breaker) (circuit : Circuit) : Breaker :=
  { b with circuit, watch := b.watch.publish circuit.phase }

/-- Open the circuit.  The wait grows with the openings before this one. -/
def trip (b : Breaker) (now : Nat) : Breaker :=
  b.enter (.opened ⟨now, b.config.coolDownFor b.openings, b.openings + 1⟩)

/-- Close the circuit. -/
def close (b : Breaker) : Breaker := b.enter (.closed 0)

/-- Another call may be the trial. -/
def endTrial (b : Breaker) : Breaker :=
  match b.circuit with
  | .halfOpen last _ => { b with circuit := .halfOpen last false }
  | _ => b

/-! ## Admission -/

/-- Ask for a permit.  If there is none, the result is the time in nanoseconds after
which there may be one. -/
def admission (b : Breaker) (now : Nat) : Except Nat (Permit × Breaker) :=
  if b.config.enabled then
    match b.circuit with
    | .closed _ => .ok (.ordinary, b)
    | .opened last =>
      if last.waitLeft now = 0 then .ok (.trial, b.enter (.halfOpen last true))
      else .error (last.waitLeft now)
    | .halfOpen last false => .ok (.trial, { b with circuit := .halfOpen last true })
    | .halfOpen _ true => .error 0
  else .ok (.ordinary, b)

/-! ## Settlement -/

/-- The end of a trial. -/
def settleTrial (b : Breaker) (now : Nat) : Ending → Breaker
  | .success => b.close
  | .countedFailure => b.trip now
  | .otherFailure => b.endTrial
  | .abandoned => b.endTrial

/-- The end of an ordinary call, with the failures in a row before it. -/
def settleOrdinary (b : Breaker) (now failures : Nat) : Ending → Breaker
  | .success => { b with circuit := .closed 0 }
  | .countedFailure =>
    if b.config.failureThreshold ≤ failures + 1 then b.trip now
    else { b with circuit := .closed (failures + 1) }
  | .otherFailure => b
  | .abandoned => b

/-- Report the end of a call. -/
def settle (b : Breaker) (now : Nat) (permit : Permit) (ending : Ending) : Breaker :=
  if b.config.enabled then
    match permit, b.circuit with
    | .trial, _ => b.settleTrial now ending
    -- A call that was admitted before an opening ends here too, once the circuit is closed.
    | .ordinary, .closed failures => b.settleOrdinary now failures ending
    | .ordinary, _ => b
  else b

/-! ## The end of a trial

It takes the flag down, and everything else stays as it is. -/

@[simp] theorem config_endTrial (b : Breaker) : b.endTrial.config = b.config := by
  unfold endTrial
  split <;> rfl

@[simp] theorem name_endTrial (b : Breaker) : b.endTrial.name = b.name := by
  unfold endTrial
  split <;> rfl

theorem phase_endTrial (b : Breaker) : b.endTrial.phase = b.phase := by
  unfold endTrial phase
  cases circuit : b.circuit <;> simp [circuit, Circuit.phase]

theorem failures_endTrial (b : Breaker) : b.endTrial.failures = b.failures := by
  unfold endTrial failures
  cases circuit : b.circuit <;> simp [circuit, Circuit.failures]

theorem lastOpening?_endTrial (b : Breaker) :
    b.endTrial.circuit.lastOpening? = b.circuit.lastOpening? := by
  unfold endTrial
  cases circuit : b.circuit with
  | halfOpen last onTrial => rfl
  | closed failures => simp [circuit]
  | opened last => simp [circuit]

theorem isOnTrial_endTrial (b : Breaker) : b.endTrial.circuit.isOnTrial = false := by
  unfold endTrial
  cases circuit : b.circuit <;> simp [circuit, Circuit.isOnTrial]

/-! ## What stays as it is -/

@[simp] theorem config_settleTrial (b : Breaker) (now : Nat) (ending : Ending) :
    (b.settleTrial now ending).config = b.config := by
  cases ending <;> first | rfl | exact b.config_endTrial

@[simp] theorem config_settleOrdinary (b : Breaker) (now failures : Nat) (ending : Ending) :
    (b.settleOrdinary now failures ending).config = b.config := by
  cases ending
  case countedFailure =>
    simp only [settleOrdinary]
    split <;> rfl
  all_goals rfl

@[simp] theorem config_settle (b : Breaker) (now : Nat) (permit : Permit) (ending : Ending) :
    (b.settle now permit ending).config = b.config := by
  unfold settle
  split
  · split <;> simp
  · rfl

end Breaker

end Gatehouse
