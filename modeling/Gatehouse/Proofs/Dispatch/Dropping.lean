import Gatehouse.Proofs.Dispatch.Submission

/-!
# Doing without a task

A caller may say of a task that it can be dropped.  The gateway then takes the same way as ever:
the task goes to the same queue or is kept away by the breaker as it would be otherwise, and the
breaker learns the same.  Only the caller is told something else.  `dropping` says what: that
the task has been submitted, or that it has been dropped because of an error of a kind that is
tolerated, or else the error itself.

Two runs are compared that differ in one dispatch.  `Relaxed` is what relates the two gateways
while the call is under way: all that is not the same is what is noted down about this call.
So every event has the same effect on both, and the replies differ only where the call ends
(`Relaxed.step`).

### What is load-bearing

The broker chooses the kinds of its failures, and nothing keeps it from calling one
`circuit_open`.  Such a failure is tolerated like an open circuit, since errors are told apart
by their kind and by nothing else.
-/

namespace Gatehouse

/-- **What a caller is told who can do without the task**, where another caller is given this
result. -/
def dropping (tracked : List String) : Except CallError String → Except CallError Bool
  | .ok _ => .ok true
  | .error e => if e.kind = "circuit_open" ∨ e.kind ∈ tracked then .ok false else .error e

theorem recover_eq_dropping (tracked : List String) (queue : String)
    (result : Except CallError Unit) :
    recover ("circuit_open" :: tracked) false (result.map fun _ => true) =
      dropping tracked (result.map fun _ => queue) := by
  cases result with
  | ok _ => rfl
  | error e =>
    change recover _ false (.error e) = dropping tracked (.error e)
    rw [recover_error, dropping]
    simp only [List.contains_iff_mem, List.mem_cons]

namespace Gateway

/-- The reply to a caller who can do without the task. -/
def Reply.dropping (tracked : List String) : Reply → Reply
  | .finished (.queued result) => .finished (.kept (Gatehouse.dropping tracked result))
  | reply => reply

/-- The event is the broker's answer to the call that has begun with this reply. -/
def Event.answers (first : Reply) : Event → Bool
  | .answer ticket _ =>
    match first with
    | .pending own => ticket = own
    | _ => false
  | _ => false

/-- The reply to an event, where the caller of one call can do without the task. -/
def Reply.relaxed (reply : Reply) (tracked : List String) (first : Reply) (event : Event) :
    Reply :=
  if event.answers first then reply.dropping tracked else reply

theorem Reply.relaxed_notRunning (tracked : List String) (first : Reply) (event : Event) :
    Reply.notRunning.relaxed tracked first event = .notRunning := by
  unfold Reply.relaxed
  split <;> rfl

theorem conclude_droppable (g : Gateway) (queue : String) (result : Except CallError Unit) :
    Reply.finished (g.conclude .droppable queue result) =
      (Reply.finished (g.conclude .required queue result)).dropping g.breaker.config.tracked :=
  congrArg (fun result => Reply.finished (.kept result))
    (recover_eq_dropping g.breaker.config.tracked queue result)

/-- What a caller gets depends on the traffic alone. -/
theorem conclude_congr {g h : Gateway} (traffic : h.traffic = g.traffic) :
    h.conclude = g.conclude := by
  unfold conclude dropKinds breaker
  rw [traffic]

/-- **Two gateways differ in what is noted down about one call**: the caller requires the task
in the one, and can do without it in the other. -/
structure Relaxed (own : Nat) (g h : Gateway) : Prop where
  router : h.router = g.router
  traffic : h.traffic = g.traffic
  call : h.submissions.get? own =
    (g.submissions.get? own).map fun entry => (.droppable, entry.2)
  others : ∀ ticket, ticket ≠ own → h.submissions.get? ticket = g.submissions.get? ticket
  issued : own < g.traffic.issued

namespace Relaxed

variable {own : Nat} {g h : Gateway}

/-- A later call is noted down in both. -/
theorem set (same : Relaxed own g h) {traffic : Traffic} (later : own < traffic.issued)
    (ticket : Nat) (apart : ticket ≠ own) (entry : Delivery × Submission) :
    Relaxed own { g with traffic, submissions := g.submissions.set ticket entry }
      { h with traffic, submissions := h.submissions.set ticket entry } where
  router := same.router
  traffic := rfl
  call := by rw [Ledger.get?_set, Ledger.get?_set, if_neg apart, if_neg apart, same.call]
  others other ne := by rw [Ledger.get?_set, Ledger.get?_set, same.others other ne]
  issued := later

/-- A call is crossed out in both. -/
theorem erase (same : Relaxed own g h) {traffic : Traffic} (later : own < traffic.issued)
    (ticket : Nat) :
    Relaxed own { g with traffic, submissions := g.submissions.erase ticket }
      { h with traffic, submissions := h.submissions.erase ticket } where
  router := same.router
  traffic := rfl
  call := by
    rw [Ledger.get?_erase, Ledger.get?_erase, same.call]
    split <;> rfl
  others other ne := by rw [Ledger.get?_erase, Ledger.get?_erase, same.others other ne]
  issued := later

end Relaxed

end Gateway

namespace Traffic

theorem issued_of_start {t next : Traffic} {ticket : Nat} (h : t.start = .ok (ticket, next)) :
    ticket = t.issued ∧ next.issued = t.issued + 1 := by
  unfold start at h
  split at h
  · cases h
  · cases h
    exact ⟨rfl, rfl⟩

theorem issued_of_finish? {t next : Traffic} {ticket : Nat} {ending : Ending}
    (h : t.finish? ticket ending = some next) : next.issued = t.issued := by
  obtain ⟨permit, -, rfl⟩ := Option.map_eq_some_iff.mp h
  rfl

end Traffic

namespace Gateway

namespace Relaxed

variable {own : Nat} {g h : Gateway}

/-- What is noted down about a call, in the one gateway and in the other. -/
theorem get?_submissions (same : Relaxed own g h) (ticket : Nat) :
    h.submissions.get? ticket = (g.submissions.get? ticket).map fun entry =>
      (if ticket = own then .droppable else entry.1, entry.2) := by
  by_cases mine : ticket = own
  · subst mine
    simpa using same.call
  · simp [mine, same.others ticket mine]

theorem step_answer (same : Relaxed own g h) (ticket : Nat) (result : Except Failure Unit) :
    (h.step (.answer ticket result)).reply =
        (g.step (.answer ticket result)).reply.relaxed g.breaker.config.tracked (.pending own)
          (.answer ticket result) ∧
      (h.step (.answer ticket result)).submitted = (g.step (.answer ticket result)).submitted ∧
      Relaxed own (g.step (.answer ticket result)).next (h.step (.answer ticket result)).next := by
  unfold Gateway.step answer settle?
  dsimp only
  rw [same.get?_submissions, same.traffic, conclude_congr same.traffic]
  cases g.submissions.get? ticket with
  | none => exact ⟨(Reply.relaxed_notRunning ..).symm, rfl, same⟩
  | some entry =>
    cases settled : g.traffic.finish? ticket (g.traffic.endingOf result) with
    | none => exact ⟨(Reply.relaxed_notRunning ..).symm, rfl, same⟩
    | some traffic =>
      have later : own < traffic.issued := by
        rw [Traffic.issued_of_finish? settled]
        exact same.issued
      refine ⟨?_, rfl, same.erase later ticket⟩
      obtain ⟨delivery, submission⟩ := entry
      by_cases mine : ticket = own
      · have own : Event.answers (.pending own) (.answer ticket result) = true := by
          simp [Event.answers, mine]
        dsimp only [Option.map_some]
        rw [Reply.relaxed, if_pos own, if_pos mine]
        cases delivery with
        | required => exact g.conclude_droppable submission.queue (result.mapError .operation)
        | droppable => rfl
      · simp [Reply.relaxed, Event.answers, mine]

/-- **Relaxing one call changes the reply to the broker's answer to it**, and no other reply,
nothing that is submitted, and nothing in the traffic. -/
theorem step (same : Relaxed own g h) (event : Event) :
    (h.step event).reply =
        (g.step event).reply.relaxed g.breaker.config.tracked (.pending own) event ∧
      (h.step event).submitted = (g.step event).submitted ∧
      Relaxed own (g.step event).next (h.step event).next := by
  cases event with
  | dispatch delivery task =>
    unfold Gateway.step dispatch
    dsimp only
    rw [same.router, same.traffic, conclude_congr same.traffic]
    cases started : g.traffic.start with
    | error e => exact ⟨rfl, rfl, same⟩
    | ok call =>
      obtain ⟨ticket, traffic⟩ := call
      obtain ⟨rfl, next⟩ := Traffic.issued_of_start started
      have before := same.issued
      have later : own < traffic.issued := by omega
      have after := same.set later g.traffic.issued (by omega)
        (delivery, ⟨g.router.queueFor task.name, task⟩)
      rw [same.router] at after
      exact ⟨rfl, rfl, after⟩
  | answer ticket result => exact same.step_answer ticket result
  | cancel ticket =>
    unfold Gateway.step cancel settle?
    dsimp only
    rw [same.traffic]
    cases settled : g.traffic.finish? ticket .abandoned with
    | none => exact ⟨rfl, rfl, same⟩
    | some traffic =>
      have later : own < traffic.issued := by
        rw [Traffic.issued_of_finish? settled]
        exact same.issued
      exact ⟨rfl, rfl, same.erase later ticket⟩
  | pass nanoseconds =>
    unfold Gateway.step
    rw [same.traffic]
    exact ⟨rfl, rfl, same.router, rfl, same.call, same.others, same.issued⟩

/-- **Relaxing one call changes the reply to the broker's answer to it in a whole run**, and
nothing else that can be seen. -/
theorem run (same : Relaxed own g h) (events : List Event) :
    (h.run events).1.map (·.reply) =
        (events.zip ((g.run events).1.map (·.reply))).map (fun (event, reply) =>
          reply.relaxed g.breaker.config.tracked (.pending own) event) ∧
      (h.run events).1.map (·.submitted) = (g.run events).1.map (·.submitted) ∧
      (h.run events).1.map (·.next.traffic) = (g.run events).1.map (·.next.traffic) := by
  induction events generalizing g h with
  | nil => exact ⟨rfl, rfl, rfl⟩
  | cons event events ih =>
    obtain ⟨reply, submitted, next⟩ := same.step event
    obtain ⟨replies, submissions, traffics⟩ := ih next
    have config : (g.step event).next.breaker.config = g.breaker.config :=
      (g.frame_run [event]).2
    rw [config] at replies
    rw [run_cons, run_cons]
    simp only [List.map_cons, List.zip_cons_cons]
    exact ⟨by rw [reply, replies], by rw [submitted, submissions],
      by rw [next.traffic, traffics]⟩

end Relaxed

/-! ## One call -/

/-- **Two calls begin alike.**  Either both are kept away and told so, with nothing changed, or
both are under way from then on. -/
theorem step_relaxed (g : Gateway) (task : Task) :
    let strict := g.step (.dispatch .required task)
    let lenient := g.step (.dispatch .droppable task)
    lenient.reply = strict.reply.dropping g.breaker.config.tracked ∧
      lenient.submitted = strict.submitted ∧ lenient.next.traffic = strict.next.traffic ∧
      ((∃ result, strict.reply = .finished result) ∧ lenient.next = strict.next ∨
        ∃ own, strict.reply = .pending own ∧ Relaxed own strict.next lenient.next) := by
  dsimp only
  unfold step dispatch
  dsimp only
  cases started : g.traffic.start with
  | error e =>
    exact ⟨g.conclude_droppable (g.router.queueFor task.name) (.error e), rfl, rfl,
      Or.inl ⟨⟨_, rfl⟩, rfl⟩⟩
  | ok call =>
    obtain ⟨ticket, traffic⟩ := call
    obtain ⟨rfl, next⟩ := Traffic.issued_of_start started
    refine ⟨rfl, rfl, rfl, Or.inr ⟨g.traffic.issued, rfl, ?_⟩⟩
    exact {
      router := rfl
      traffic := rfl
      call := by simp [Ledger.get?_set]
      others := fun other ne => by simp [Ledger.get?_set, Ne.symm ne]
      issued := by
        dsimp only
        omega }

/-- Where a call has been kept away no reply is relaxed later on. -/
theorem relaxed_of_finished {tracked : List String} {result : DispatchResult}
    {events : List Event} {replies : List Reply} (length : events.length = replies.length) :
    (events.zip replies).map (fun (event, reply) =>
      reply.relaxed tracked (.finished result) event) = replies := by
  have same : ∀ entry : Event × Reply,
      entry.2.relaxed tracked (.finished result) entry.1 = entry.2 := by
    rintro ⟨event, reply⟩
    cases event <;> rfl
  calc (events.zip replies).map (fun (event, reply) =>
          reply.relaxed tracked (.finished result) event)
      = (events.zip replies).map Prod.snd := List.map_congr_left fun entry _ => same entry
    _ = replies := List.map_snd_zip (Nat.le_of_eq length.symm)

/-- What comes after the call, once it is known how it has begun. -/
theorem run_relaxed (g : Gateway) (task : Task) (rest : List Event) {first : Reply}
    (begun : (g.step (.dispatch .required task)).reply = first) :
    let strict := ((g.step (.dispatch .required task)).next.run rest).1
    let lenient := ((g.step (.dispatch .droppable task)).next.run rest).1
    lenient.map (·.submitted) = strict.map (·.submitted) ∧
      lenient.map (·.next.traffic) = strict.map (·.next.traffic) ∧
      lenient.map (·.reply) = (rest.zip (strict.map (·.reply))).map fun (event, reply) =>
        reply.relaxed g.breaker.config.tracked first event := by
  intro strict lenient
  obtain ⟨-, -, -, ⟨⟨result, finished⟩, same⟩ | ⟨own, pending, same⟩⟩ := g.step_relaxed task
  -- A call that is kept away is over, so no later event is an answer to it.
  · obtain rfl := begun.symm.trans finished
    have length : rest.length = (strict.map (·.reply)).length := by
      rw [List.length_map, length_run]
    have equal : lenient = strict := congrArg (fun h : Gateway => (h.run rest).1) same
    rw [relaxed_of_finished length, equal]
    exact ⟨rfl, rfl, rfl⟩
  · obtain rfl := begun.symm.trans pending
    have config : (g.step (.dispatch .required task)).next.breaker.config = g.breaker.config :=
      (g.frame_run [.dispatch .required task]).2
    obtain ⟨replies, submissions, traffics⟩ := same.run rest
    rw [config] at replies
    exact ⟨submissions, traffics, replies⟩

/-- **Tasks are submitted once, and who can do without a task changes nothing but his own
result.**  Take a gateway with any router and any settings of its breaker, and let anything
happen to it first: calls of either kind begin, end and are given up, and time passes.

* Whatever happens next, only a dispatch hands something to the broker.  If the breaker admits
  the call it hands over the task as it is, once, to the queue of the first route that admits
  its name, or to the default queue.  If the breaker rejects the call nothing is handed over.
* Suppose that next a task is dispatched by somebody who requires it, and then more happens.
  Had the caller been able to do without the task, the same would have been submitted all
  along, and the traffic through the breaker would have been the same after every event.  The
  replies would have been the same too, apart from the result of this one call: `true` in place
  of the queue, `false` in place of an error that says that the circuit is open or is of a
  tracked kind, and every other error as it is. -/
theorem submitted_once_and_dropped_silently (router : Router) (name : String)
    (config : BreakerConfig) (past : List Event) :
    let start := make router (.make name config)
    let g := (start.run past).2
    (∀ event rest, ∃ outcome,
      (start.run (past ++ event :: rest)).1[past.length]? = some outcome ∧
        match event with
        | .dispatch _ task => ∃ queue, router.RoutesTo task.name queue ∧
            ((∃ permit breaker, g.breaker.Admits g.traffic.now permit breaker) ∧
                (∃ ticket, outcome.reply = .pending ticket) ∧
                outcome.submitted = [⟨queue, task⟩] ∨
              (∃ wait, g.breaker.Rejects g.traffic.now wait) ∧
                (∃ result, outcome.reply = .finished result) ∧ outcome.submitted = [])
        | _ => outcome.submitted = []) ∧
    ∀ task rest,
      let strict := (g.run (.dispatch .required task :: rest)).1
      let lenient := (g.run (.dispatch .droppable task :: rest)).1
      lenient.map (·.submitted) = strict.map (·.submitted) ∧
        lenient.map (·.next.traffic) = strict.map (·.next.traffic) ∧
        ∃ first others, strict.map (·.reply) = first :: others ∧
          lenient.map (·.reply) = first.dropping config.tracked ::
            (rest.zip others).map fun (event, reply) =>
              reply.relaxed config.tracked first event := by
  intro start g
  obtain ⟨sameRouter, settings⟩ := start.frame_run past
  constructor
  · intro event rest
    refine ⟨_, start.getElem?_run past event rest, ?_⟩
    have handles := g.handles_step event
    generalize (start.run past).2.step event = outcome at handles ⊢
    cases handles with
    | rejected rejects delivery task =>
      refine ⟨_, router.routesTo_queueFor task.name, Or.inr ⟨⟨_, rejects⟩, ⟨_, rfl⟩, rfl⟩⟩
    | admitted admits delivery task =>
      refine ⟨_, router.routesTo_queueFor task.name, Or.inl ⟨⟨_, _, admits⟩, ⟨_, rfl⟩, ?_⟩⟩
      rw [sameRouter]
      rfl
    | _ => rfl
  · intro task rest strict lenient
    have unchanged : g.breaker.config = config := settings
    obtain ⟨reply, submitted, traffic, -⟩ := g.step_relaxed task
    obtain ⟨submissions, traffics, replies⟩ := g.run_relaxed task rest rfl
    rw [unchanged] at reply replies
    refine ⟨?_, ?_, _, _, rfl, ?_⟩
    · exact List.cons_eq_cons.mpr ⟨submitted, submissions⟩
    · exact List.cons_eq_cons.mpr ⟨traffic, traffics⟩
    · exact List.cons_eq_cons.mpr ⟨reply, replies⟩

end Gateway

end Gatehouse
