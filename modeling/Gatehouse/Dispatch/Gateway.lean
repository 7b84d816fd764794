import Gatehouse.Breaker.Traffic
import Gatehouse.Dispatch.Router

/-!
# The gateway

Tasks leave through a gateway.  It finds the queue of a task and submits the task to
a broker, with a breaker in front of it.  A submission is tried once.

A caller that can do without the task says so.  Then an open circuit, or a failure of
a kind that the breaker counts, is no error: the task is dropped, and the caller is
told.  Both ways of dispatching take the same path to the broker, and differ in what
they make of the result (`conclude`).

Submissions take time.  What the broker does is therefore not part of a step: a task
that has been submitted is under way until the broker's answer arrives.
-/

namespace Gatehouse

/-- What a caller makes of a failure. -/
inductive Delivery where
  /-- Every failure is an error. -/
  | required
  /-- The task may be dropped. -/
  | droppable
  deriving DecidableEq, Repr

/-- A task that has been handed to the broker. -/
structure Submission where
  queue : String
  task : Task

/-- The result of a dispatch. -/
inductive DispatchResult where
  /-- Of one that is required: the queue. -/
  | queued (result : Except CallError String)
  /-- Of one that is droppable: the task has not been dropped. -/
  | kept (result : Except CallError Bool)

/-- A router and a breaker in front of a broker. -/
structure Gateway where
  router : Router
  traffic : Traffic
  /-- The submissions under way, by the ticket of the call. -/
  submissions : Ledger Nat (Delivery × Submission)

namespace Gateway

/-- A gateway for a broker. -/
def make (router : Router) (breaker : Breaker) : Gateway :=
  ⟨router, .ofBreaker breaker, .empty⟩

/-- The gateway that settings describe. -/
def ofSettings (settings : DispatchSettings) : Except PatternError Gateway :=
  (Router.make settings.defaultQueue settings.routes).map fun router =>
    make router (.make "broker" settings.breaker)

/-- The breaker in front of the broker. -/
def breaker (g : Gateway) : Breaker := g.traffic.breaker

/-- The kinds of errors for which a task may be dropped. -/
def dropKinds (g : Gateway) : List String := "circuit_open" :: g.breaker.config.tracked

/-- What a caller gets for the broker's answer. -/
def conclude (g : Gateway) (delivery : Delivery) (queue : String)
    (result : Except CallError Unit) : DispatchResult :=
  match delivery with
  | .required => .queued (result.map fun _ => queue)
  | .droppable => .kept (recover g.dropKinds false (result.map fun _ => true))

/-! ## Runs -/

/-- Something happens. -/
inductive Event where
  | dispatch (delivery : Delivery) (task : Task)
  /-- The broker answers. -/
  | answer (ticket : Nat) (result : Except Failure Unit)
  /-- The caller gives up. -/
  | cancel (ticket : Nat)
  | pass (nanoseconds : Nat)

/-- What comes back. -/
inductive Reply where
  /-- The task has been submitted. -/
  | pending (ticket : Nat)
  | finished (result : DispatchResult)
  | cancelled
  /-- No submission with this ticket is under way. -/
  | notRunning
  | passed

/-- What an event leads to. -/
structure Outcome where
  reply : Reply
  /-- What has been handed to the broker. -/
  submitted : List Submission
  next : Gateway

/-- The call with this ticket ends. -/
def settle? (g : Gateway) (ticket : Nat) (ending : Ending) : Option Gateway :=
  (g.traffic.finish? ticket ending).map fun traffic =>
    { g with traffic, submissions := g.submissions.erase ticket }

/-- Dispatch a task. -/
def dispatch (g : Gateway) (delivery : Delivery) (task : Task) : Outcome :=
  let submission : Submission := ⟨g.router.queueFor task.name, task⟩
  match g.traffic.start with
  | .error e => ⟨.finished (g.conclude delivery submission.queue (.error e)), [], g⟩
  | .ok (ticket, traffic) =>
    ⟨.pending ticket, [submission],
      { g with traffic, submissions := g.submissions.set ticket (delivery, submission) }⟩

/-- The broker answers. -/
def answer (g : Gateway) (ticket : Nat) (result : Except Failure Unit) : Outcome :=
  match g.submissions.get? ticket, g.settle? ticket (g.traffic.endingOf result) with
  | some (delivery, submission), some next =>
    ⟨.finished (g.conclude delivery submission.queue (result.mapError .operation)), [], next⟩
  | _, _ => ⟨.notRunning, [], g⟩

/-- The caller gives up. -/
def cancel (g : Gateway) (ticket : Nat) : Outcome :=
  match g.settle? ticket .abandoned with
  | some next => ⟨.cancelled, [], next⟩
  | none => ⟨.notRunning, [], g⟩

/-- What an event leads to. -/
def step (g : Gateway) : Event → Outcome
  | .dispatch delivery task => g.dispatch delivery task
  | .answer ticket result => g.answer ticket result
  | .cancel ticket => g.cancel ticket
  | .pass nanoseconds => ⟨.passed, [], { g with traffic := g.traffic.pass nanoseconds }⟩

/-- What some events lead to. -/
def run (g : Gateway) : List Event → List Outcome × Gateway
  | [] => ([], g)
  | event :: events =>
    let outcome := g.step event
    let (outcomes, last) := outcome.next.run events
    (outcome :: outcomes, last)

theorem run_cons (g : Gateway) (event : Event) (events : List Event) :
    g.run (event :: events) =
      (g.step event :: ((g.step event).next.run events).1,
        ((g.step event).next.run events).2) := rfl

end Gateway

end Gatehouse
