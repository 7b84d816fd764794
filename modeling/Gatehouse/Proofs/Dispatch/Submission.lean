import Gatehouse.Dispatch.Gateway
import Gatehouse.Proofs.Breaker.Moves

/-!
# What reaches the broker

`RoutesTo` says which queue a task belongs to, and `Gateway.Handles` says what a gateway does with
an event: what the caller is told, and what is handed to the broker.  There are two things to
read off it.  Only a dispatch hands something over, and only if the breaker admits it; and what
the breaker sees is traffic like any other (`Handles.traffic`), so that whatever is known about
breakers holds behind a gateway as well.
-/

namespace Gatehouse

/-- **The queue of a task**: the one of the first route whose pattern admits its name, or the
default queue if no pattern does. -/
def Router.RoutesTo (r : Router) (name queue : String) : Prop :=
  (∃ before route after, r.routes = before ++ route :: after ∧
      (∀ earlier ∈ before, earlier.pattern.admits name = false) ∧
      route.pattern.admits name = true ∧ queue = route.queue) ∨
    (∀ route ∈ r.routes, route.pattern.admits name = false) ∧ queue = r.defaultQueue

theorem Router.routesTo_queueFor (r : Router) (name : String) :
    r.RoutesTo name (r.queueFor name) := by
  unfold queueFor
  cases found : r.routes.find? fun route => route.pattern.admits name with
  | none => exact Or.inr ⟨by simpa using found, rfl⟩
  | some route =>
    obtain ⟨admits, before, after, split, others⟩ := List.find?_eq_some_iff_append.mp found
    exact Or.inl ⟨before, route, after, split, by simpa using others, admits, rfl⟩

namespace Gateway

/-- **What a gateway does with an event.** -/
inductive Handles (g : Gateway) : Event → Outcome → Prop where
  | rejected {wait : Nat} (rejects : g.breaker.Rejects g.traffic.now wait) (delivery : Delivery)
      (task : Task) :
      Handles g (.dispatch delivery task)
        ⟨.finished (g.conclude delivery (g.router.queueFor task.name)
          (.error (g.traffic.rejection wait))), [], g⟩
  | admitted {permit : Permit} {breaker : Breaker}
      (admits : g.breaker.Admits g.traffic.now permit breaker) (delivery : Delivery)
      (task : Task) :
      Handles g (.dispatch delivery task)
        ⟨.pending g.traffic.issued, [⟨g.router.queueFor task.name, task⟩],
          { g with
            traffic := (g.traffic.step .start).2
            submissions := g.submissions.set g.traffic.issued
              (delivery, ⟨g.router.queueFor task.name, task⟩) }⟩
  | answered {ticket : Nat} {delivery : Delivery} {submission : Submission} {traffic : Traffic}
      {result : Except Failure Unit}
      (underWay : g.submissions.get? ticket = some (delivery, submission))
      (settled : g.traffic.finish? ticket (g.traffic.endingOf result) = some traffic) :
      Handles g (.answer ticket result)
        ⟨.finished (g.conclude delivery submission.queue (result.mapError .operation)), [],
          { g with traffic, submissions := g.submissions.erase ticket }⟩
  | cancelled {ticket : Nat} {traffic : Traffic}
      (settled : g.traffic.finish? ticket .abandoned = some traffic) :
      Handles g (.cancel ticket)
        ⟨.cancelled, [], { g with traffic, submissions := g.submissions.erase ticket }⟩
  | unanswered {ticket : Nat} {result : Except Failure Unit}
      (unknown : g.submissions.get? ticket = none ∨
        g.traffic.finish? ticket (g.traffic.endingOf result) = none) :
      Handles g (.answer ticket result) ⟨.notRunning, [], g⟩
  | uncancelled {ticket : Nat} (unknown : g.traffic.finish? ticket .abandoned = none) :
      Handles g (.cancel ticket) ⟨.notRunning, [], g⟩
  | passed (nanoseconds : Nat) :
      Handles g (.pass nanoseconds)
        ⟨.passed, [], { g with traffic := g.traffic.pass nanoseconds }⟩

theorem handles_step (g : Gateway) (event : Event) : g.Handles event (g.step event) := by
  cases event with
  | dispatch delivery task =>
    unfold step dispatch Traffic.start
    dsimp only
    cases asked : g.traffic.breaker.admission g.traffic.now with
    | error wait => exact .rejected (Breaker.admission_eq_error_iff.mp asked) delivery task
    | ok granted =>
      have admits := Breaker.admission_eq_ok_iff.mp asked
      have handled := Handles.admitted (g := g) admits delivery task
      rw [Traffic.step_start_of_admits admits] at handled
      exact handled
  | answer ticket result =>
    unfold step answer settle?
    dsimp only
    cases underWay : g.submissions.get? ticket with
    | none => exact .unanswered (Or.inl underWay)
    | some entry =>
      cases settled : g.traffic.finish? ticket (g.traffic.endingOf result) with
      | none => exact .unanswered (Or.inr settled)
      | some traffic => exact .answered underWay settled
  | cancel ticket =>
    unfold step cancel settle?
    dsimp only
    cases settled : g.traffic.finish? ticket .abandoned with
    | none => exact .uncancelled settled
    | some traffic => exact .cancelled settled
  | pass nanoseconds => exact .passed nanoseconds

/-! ## The breaker behind the gateway -/

/-- **The breaker sees traffic like any other.** -/
theorem Handles.traffic {g : Gateway} {event : Event} {outcome : Outcome}
    (handles : g.Handles event outcome) :
    ∃ events, outcome.next.traffic = (g.traffic.run events).2 := by
  have settles : ∀ {ticket ending traffic}, g.traffic.finish? ticket ending = some traffic →
      traffic = (g.traffic.run [.finish ticket ending]).2 := by
    intro ticket ending traffic settled
    simp [Traffic.run_cons, Traffic.step, settled]
  cases handles with
  | rejected rejects => exact ⟨[], rfl⟩
  | admitted admits => exact ⟨[.start], rfl⟩
  | answered underWay settled => exact ⟨_, settles settled⟩
  | cancelled settled => exact ⟨_, settles settled⟩
  | unanswered unknown => exact ⟨[], rfl⟩
  | uncancelled unknown => exact ⟨[], rfl⟩
  | passed nanoseconds => exact ⟨[.pass nanoseconds], rfl⟩

theorem Handles.router {g : Gateway} {event : Event} {outcome : Outcome}
    (handles : g.Handles event outcome) : outcome.next.router = g.router := by
  cases handles <;> rfl

/-! ## Runs -/

/-- The router and the settings of the breaker never change. -/
theorem frame_run (g : Gateway) (events : List Event) :
    (g.run events).2.router = g.router ∧
      (g.run events).2.breaker.config = g.breaker.config := by
  induction events generalizing g with
  | nil => exact ⟨rfl, rfl⟩
  | cons event events ih =>
    have handles := g.handles_step event
    obtain ⟨moves, same⟩ := handles.traffic
    have config : (g.step event).next.breaker.config = g.breaker.config := by
      unfold breaker
      rw [same]
      exact (g.traffic.frame_run moves).1
    obtain ⟨router, settings⟩ := ih (g.step event).next
    exact ⟨router.trans handles.router, settings.trans config⟩

theorem length_run (g : Gateway) (events : List Event) :
    (g.run events).1.length = events.length := by
  induction events generalizing g with
  | nil => rfl
  | cons event events ih => exact congrArg (· + 1) (ih (g.step event).next)

/-- The outcome of an event in a run is that of the event after those before it. -/
theorem getElem?_run (g : Gateway) (past : List Event) (event : Event) (rest : List Event) :
    (g.run (past ++ event :: rest)).1[past.length]? = some ((g.run past).2.step event) := by
  induction past generalizing g with
  | nil => rfl
  | cons first past ih => exact ih (g.step first).next

end Gateway

end Gatehouse
