import Gatehouse.Breaker.Basic
import Gatehouse.Dispatch.Failure
import Gatehouse.Ledger

/-!
# Traffic through a breaker

A breaker by itself does not know which calls are under way.  `Traffic` keeps them
beside it, together with a clock, so that a whole run can be looked at: calls start,
end in any order or are given up, and time passes in between.

A call that is admitted gets a ticket, which is a number that has not been used
before.  Its permit waits under the ticket until the call ends, so a permit is used
once at most.
-/

namespace Gatehouse

/-- A breaker with the calls that are under way. -/
structure Traffic where
  breaker : Breaker
  /-- The present instant, in nanoseconds. -/
  now : Nat
  /-- So many tickets have been given out. -/
  issued : Nat
  /-- The permits of the calls under way, by ticket. -/
  inFlight : Ledger Nat Permit

namespace Traffic

/-- A breaker before the first call. -/
def ofBreaker (breaker : Breaker) : Traffic := ⟨breaker, 0, 0, .empty⟩

/-- The error of a call that is kept away. -/
def rejection (t : Traffic) (retryAfter : Nat) : CallError :=
  .circuitOpen t.breaker.name retryAfter

/-- Start a call. -/
def start (t : Traffic) : Except CallError (Nat × Traffic) :=
  match t.breaker.admission t.now with
  | .error retryAfter => .error (t.rejection retryAfter)
  | .ok (permit, breaker) =>
    .ok (t.issued, { t with
      breaker, issued := t.issued + 1, inFlight := t.inFlight.set t.issued permit })

/-- A call ends. -/
def finish? (t : Traffic) (ticket : Nat) (ending : Ending) : Option Traffic :=
  (t.inFlight.get? ticket).map fun permit =>
    { t with
      breaker := t.breaker.settle t.now permit ending
      inFlight := t.inFlight.erase ticket }

/-- Time passes. -/
def pass (t : Traffic) (nanoseconds : Nat) : Traffic := { t with now := t.now + nanoseconds }

/-- What the end of a call with this result means to the breaker. -/
def endingOf {α : Type u} (t : Traffic) : Except Failure α → Ending
  | .ok _ => .success
  | .error failure =>
    if t.breaker.config.tracks failure.kind then .countedFailure else .otherFailure

/-! ## Runs -/

/-- Something happens. -/
inductive Event where
  | start
  | finish (ticket : Nat) (ending : Ending)
  | pass (nanoseconds : Nat)
  deriving DecidableEq, Repr

/-- What comes back. -/
inductive Reply where
  | admitted (ticket : Nat)
  | rejected (error : CallError)
  | settled
  /-- No call with this ticket is under way. -/
  | notRunning
  | passed
  deriving DecidableEq, Repr

/-- The traffic after an event. -/
def step (t : Traffic) : Event → Reply × Traffic
  | .start =>
    match t.start with
    | .error e => (.rejected e, t)
    | .ok (ticket, next) => (.admitted ticket, next)
  | .finish ticket ending =>
    match t.finish? ticket ending with
    | none => (.notRunning, t)
    | some next => (.settled, next)
  | .pass nanoseconds => (.passed, t.pass nanoseconds)

/-- The traffic after some events, with the replies to them. -/
def run (t : Traffic) : List Event → List Reply × Traffic
  | [] => ([], t)
  | event :: events =>
    let (reply, next) := t.step event
    let (replies, last) := next.run events
    (reply :: replies, last)

@[simp] theorem run_nil (t : Traffic) : t.run [] = ([], t) := rfl

theorem run_cons (t : Traffic) (event : Event) (events : List Event) :
    t.run (event :: events) =
      ((t.step event).1 :: ((t.step event).2.run events).1, ((t.step event).2.run events).2) :=
  rfl

end Traffic

end Gatehouse
