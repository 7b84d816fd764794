import Gatehouse.Proofs.Authorizer.History
import Gatehouse.Proofs.Authorizer.Transparency
import Mathlib.Data.List.DropRight
import Mathlib.Data.List.Forall2

/-!
# Watching the decisions

Whoever watches an authorizer sees its decisions, each of them once and as it was answered, and
nobody can tell from the decisions whether anybody watches.  This module follows both through
whole runs.

* An operation reports what it has decided (`Operation.Reports`): one observation for each
  path, with the verdict from which the answer is made.
* The audit events of a run are the observations that the audit settings ask for.
* What the collector of the log gets are the oldest observations since it last came, as many
  as the log has room for (`observedSinceDrain`), and nothing once it has gone.
* The answers depend on the directory alone.  Neither the audit settings nor the log have an
  influence on them, and visits of the collector can be left out.

*What is load-bearing.*  An operation has the outcome that it has where nobody watches, with the
observations put into the log (`step_watched`): all that is said about one step comes from there.
And a log drops what comes when it is full and never what waits in it.  So what waits is the
beginning of all that has come since the last visit, and the log is a function of the history of
the run (`logOfHistory`).
-/

namespace Gatehouse

/-! ## Logs -/

namespace DecisionLog

/-- What does not fit at first does not fit later. -/
theorem take_append_of_take {α : Type} (room : Nat) (xs ys : List α) :
    (xs.take room ++ ys).take room = (xs ++ ys).take room := by
  have left : room - min room xs.length = room - xs.length := by omega
  rw [List.take_append, List.take_append, List.take_take, Nat.min_self, List.length_take, left]

variable {log : DecisionLog}

/-- A log without a collector drops everything. -/
theorem offerAll_of_closed (closed : log.isOpen = false) (observations : List Observation) :
    observations.foldl offer log = log := by
  induction observations with
  | nil => rfl
  | cons first observations ih =>
    have dropped : log.offer first = log := by simp [offer, hasRoom, closed]
    rw [List.foldl_cons, dropped, ih]

/-- **A log keeps the oldest observations**, as many as it has room for. -/
theorem offerAll_of_open (isOpen : log.isOpen = true)
    (fits : log.waiting.length ≤ max log.capacity 1) (observations : List Observation) :
    observations.foldl offer log =
      { log with waiting := (log.waiting ++ observations).take (max log.capacity 1) } := by
  induction observations generalizing log with
  | nil =>
    rw [List.append_nil, List.take_of_length_le fits]
    rfl
  | cons first observations ih =>
    rw [List.foldl_cons]
    by_cases room : log.waiting.length < max log.capacity 1
    · have taken : log.offer first = { log with waiting := log.waiting ++ [first] } := by
        simp [offer, hasRoom, isOpen, room]
      have fits' : (log.offer first).waiting.length ≤ max (log.offer first).capacity 1 := by
        rw [taken, List.length_append]
        exact room
      have isOpen' : (log.offer first).isOpen = true := by
        rw [taken]
        exact isOpen
      rw [ih isOpen' fits', taken]
      simp
    · have full : log.waiting.length = max log.capacity 1 :=
        Nat.le_antisymm fits (Nat.le_of_not_lt room)
      have dropped : log.offer first = log := by
        simp only [offer, hasRoom, isOpen, room, decide_false, Bool.and_false, Bool.false_eq_true,
          if_false]
      rw [dropped, ih isOpen fits, ← full, List.take_left, List.take_left]

end DecisionLog

namespace Authorizer

namespace Operation

/-! ## What is asked and what is reported -/

/-- The operation asks for decisions. -/
def asks : Operation → Bool
  | authorize .. | isAllowed .. | require .. | authorizeEntity .. | filterAllowed .. => true
  | _ => false

/-- The collector comes. -/
def isDrain : Operation → Bool
  | drain => true
  | _ => false

/-- The collector goes. -/
def isClose : Operation → Bool
  | close => true
  | _ => false

/-- The operation concerns the collector of the log only. -/
def isVisit (operation : Operation) : Bool := operation.isDrain || operation.isClose

/-- **What an operation reports**: its answer, and the observations that have been made for
it.  Whoever asks for a decision is told what has been observed.  Where a request cannot even
be made nothing is decided, and nothing is observed of any other operation. -/
inductive Reports : Operation → Answer → List Observation → Prop where
  | authorize (o : Observation) :
      Reports (.authorize o.subject o.action o.path) (.verdict (.ok o.verdict)) [o]
  | isAllowed (o : Observation) :
      Reports (.isAllowed o.subject o.action o.path)
        (.permission o.verdict.isAllowed o.verdict.bindings) [o]
  | permitted (o : Observation) (allowed : o.verdict.isAllowed = true) :
      Reports (.require o.subject o.action o.path) (.access (.ok o.verdict.bindings)) [o]
  | refused (o : Observation) (denied : o.verdict.isAllowed = false) :
      Reports (.require o.subject o.action o.path)
        (.access (.error ⟨o.subject, o.action, o.path⟩)) [o]
  | entity (o : Observation) {kind : EntityKind} {verb : String}
      {fields : String → Option String}
      (request : kind.request verb fields = .ok (o.action, o.path)) :
      Reports (.authorizeEntity o.subject kind verb fields) (.verdict (.ok o.verdict)) [o]
  | noRequest {subject : Subject} {kind : EntityKind} {verb : String}
      {fields : String → Option String} {fault : EntityFault}
      (request : kind.request verb fields = .error fault) :
      Reports (.authorizeEntity subject kind verb fields) (.verdict (.error fault)) []
  | filterAllowed {subject : Subject} {action : String} {paths : List String}
      {observations : List Observation}
      (each : List.Forall₂ (fun path o => o.subject = subject ∧ o.action = action ∧ o.path = path)
        paths observations) :
      Reports (.filterAllowed subject action paths)
        (.kept ((observations.filter (·.verdict.isAllowed)).map fun o =>
          (o.path, o.verdict.bindings)))
        observations
  | other {operation : Operation} (answer : Answer) (asksNothing : operation.asks = false) :
      Reports operation answer []

end Operation

open Operation (Reports)

theorem decideAll_each (a : Authorizer) (subject : Subject) (action : String)
    (paths : List String) :
    List.Forall₂ (fun path o => o.subject = subject ∧ o.action = action ∧ o.path = path) paths
      (a.decideAll subject action paths).1 := by
  induction paths generalizing a with
  | nil => exact .nil
  | cons path paths ih => exact .cons ⟨rfl, rfl, rfl⟩ (ih _)

/-- What is kept of observations are the permitted ones. -/
theorem filterMap_kept? (observations : List Observation) :
    observations.filterMap (·.kept?) =
      (observations.filter (·.verdict.isAllowed)).map fun o => (o.path, o.verdict.bindings) := by
  rw [← List.filterMap_eq_map, List.filterMap_filter]
  rfl

/-- **Every operation reports what it has decided.** -/
theorem reports_step (a : Authorizer) (operation : Operation) :
    Reports operation (a.step operation).answer (a.step operation).observations := by
  cases operation with
  | authorize subject action path => exact .authorize (a.decide subject action path).1
  | isAllowed subject action path => exact .isAllowed (a.decide subject action path).1
  | require subject action path =>
    cases allowed : (a.decide subject action path).1.verdict.isAllowed with
    | true =>
      have access : (a.decide subject action path).1.access = .ok _ := if_pos allowed
      unfold step deciding
      dsimp only
      rw [access]
      exact .permitted (a.decide subject action path).1 allowed
    | false =>
      have access : (a.decide subject action path).1.access = .error _ :=
        if_neg (by rw [allowed]; decide)
      unfold step deciding
      dsimp only
      rw [access]
      exact .refused (a.decide subject action path).1 allowed
  | authorizeEntity subject kind verb fields =>
    unfold step
    dsimp only
    cases request : kind.request verb fields with
    | error fault => exact .noRequest request
    | ok wanted => exact .entity (a.decide subject wanted.1 wanted.2).1 request
  | filterAllowed subject action paths =>
    unfold step
    dsimp only
    rw [filterMap_kept?]
    exact .filterAllowed (a.decideAll_each subject action paths)
  | defineRole role =>
    unfold step
    dsimp only
    cases a.directory.defineRole role <;> exact .other _ rfl
  | grant subject grant =>
    unfold step
    dsimp only
    cases a.directory.grant subject grant <;> exact .other _ rfl
  | _ => exact .other _ rfl

/-- **To keep the permitted paths is to ask for them one by one**, in their order. -/
theorem step_filterAllowed (a : Authorizer) (subject : Subject) (action : String)
    (paths : List String) :
    (a.step (.filterAllowed subject action paths)).observations =
        (a.run (paths.map (.isAllowed subject action))).1.flatMap (·.observations) ∧
      (a.step (.filterAllowed subject action paths)).next =
        (a.run (paths.map (.isAllowed subject action))).2 := by
  induction paths generalizing a with
  | nil => exact ⟨rfl, rfl⟩
  | cons path paths ih =>
    obtain ⟨observations, next⟩ := ih (a.decide subject action path).2
    exact ⟨congrArg ((a.decide subject action path).1 :: ·) observations, next⟩

/-! ## Whoever watches -/

/-- **An outcome before other eyes**: the answer, the observations and the directory are the same.
The audit settings stay as they are, and the observations are put into the log. -/
def Outcome.watched (outcome : Outcome) (audit : AuditSettings) (log : Option DecisionLog) :
    Outcome :=
  ⟨outcome.answer, outcome.observations,
    ⟨outcome.next.directory, audit, log.map fun log => outcome.observations.foldl .offer log⟩⟩

section Watched

variable (directory : Directory) (audit : AuditSettings) (log : Option DecisionLog)

/-- Decisions put their observations into the log one after the other. -/
theorem decideAll_watched (subject : Subject) (action : String) (paths : List String) :
    decideAll ⟨directory, audit, log⟩ subject action paths =
      let alone := (ofDirectory directory).decideAll subject action paths
      (alone.1, ⟨alone.2.directory, audit, log.map fun log => alone.1.foldl .offer log⟩) := by
  induction paths generalizing directory log with
  | nil => cases log <;> rfl
  | cons path paths ih =>
    have rest := ih ((ofDirectory directory).decide subject action path).2.directory
      (log.map (·.offer ((ofDirectory directory).decide subject action path).1))
    dsimp only at rest
    rw [Option.map_map] at rest
    exact congrArg (Prod.map (((ofDirectory directory).decide subject action path).1 :: ·) id) rest

/-- **It does not matter who watches.**  Every operation but the visits of the collector has the
outcome that it has where nobody watches. -/
theorem step_watched {operation : Operation} (noVisit : operation.isVisit = false) :
    step ⟨directory, audit, log⟩ operation =
      (step (.ofDirectory directory) operation).watched audit log := by
  -- A log is visibly the same after nothing has been put into it only if it is taken apart.
  cases operation with
  | drain => cases noVisit
  | close => cases noVisit
  | defineRole role =>
    unfold step ofDirectory
    dsimp only
    cases directory.defineRole role <;> cases log <;> rfl
  | grant subject grant =>
    unfold step ofDirectory
    dsimp only
    cases directory.grant subject grant <;> cases log <;> rfl
  | authorizeEntity subject kind verb fields =>
    unfold step ofDirectory
    dsimp only
    cases kind.request verb fields <;> cases log <;> rfl
  | filterAllowed subject action paths =>
    unfold step
    dsimp only
    rw [decideAll_watched]
    rfl
  | _ => cases log <;> rfl

end Watched

/-! ## The audit -/

/-- The audit events of a run. -/
def auditTrail (a : Authorizer) : List Operation → List Observation
  | [] => []
  | operation :: operations =>
    a.audited (a.step operation).observations ++ (a.step operation).next.auditTrail operations

/-- No operation touches the audit settings. -/
theorem audit_step (a : Authorizer) (operation : Operation) :
    (a.step operation).next.audit = a.audit := by
  obtain ⟨directory, audit, log⟩ := a
  cases visit : operation.isVisit with
  | false =>
    rw [step_watched directory audit log visit]
    rfl
  | true =>
    cases operation with
    | drain => cases log <;> rfl
    | close => rfl
    | _ => cases visit

/-- **The audit leaves out nothing but what it is told to.** -/
theorem auditTrail_eq (a : Authorizer) (operations : List Operation) :
    a.auditTrail operations =
      ((a.run operations).1.flatMap (·.observations)).filter a.audit.covers := by
  induction operations generalizing a with
  | nil => rfl
  | cons operation operations ih =>
    rw [auditTrail, ih, audit_step, run_cons, List.flatMap_cons, List.filter_append]
    rfl

/-! ## The log -/

/-- **What has been observed since the collector last came.** -/
def observedSinceDrain (past : List (Operation × Outcome)) : List Observation :=
  (past.rtakeWhile fun entry => !entry.1.isDrain).flatMap (·.2.observations)

theorem observedSinceDrain_concat (past : List (Operation × Outcome))
    (entry : Operation × Outcome) :
    observedSinceDrain (past ++ [entry]) =
      if entry.1.isDrain then [] else observedSinceDrain past ++ entry.2.observations := by
  unfold observedSinceDrain
  rw [List.rtakeWhile_concat]
  cases entry.1.isDrain <;> simp

/-- The collector has gone at some time in the past. -/
def hasClosed (past : List (Operation × Outcome)) : Bool := past.any (·.1.isClose)

/-- **The log that a history leaves**, if nothing waited in it at the beginning. -/
def logOfHistory (capacity : Nat) (past : List (Operation × Outcome)) :
    DecisionLog :=
  ⟨capacity, if hasClosed past then [] else (observedSinceDrain past).take (max capacity 1),
    !hasClosed past⟩

theorem hasClosed_concat (past : List (Operation × Outcome)) (entry : Operation × Outcome) :
    hasClosed (past ++ [entry]) = (hasClosed past || entry.1.isClose) := by
  simp [hasClosed]

theorem logOfHistory_drain (capacity : Nat) (past : List (Operation × Outcome))
    (outcome : Outcome) :
    logOfHistory capacity (past ++ [(.drain, outcome)]) = (logOfHistory capacity past).drain.2 := by
  unfold logOfHistory DecisionLog.drain
  rw [hasClosed_concat, observedSinceDrain_concat]
  simp [Operation.isDrain, Operation.isClose]

theorem logOfHistory_close (capacity : Nat) (past : List (Operation × Outcome))
    (outcome : Outcome) :
    logOfHistory capacity (past ++ [(.close, outcome)]) = (logOfHistory capacity past).close := by
  unfold logOfHistory DecisionLog.close
  rw [hasClosed_concat]
  simp [Operation.isClose]

/-- Between two visits of the collector the log takes what is observed. -/
theorem logOfHistory_other (capacity : Nat) (past : List (Operation × Outcome))
    {operation : Operation} (outcome : Outcome) (noVisit : operation.isVisit = false) :
    logOfHistory capacity (past ++ [(operation, outcome)]) =
      outcome.observations.foldl DecisionLog.offer (logOfHistory capacity past) := by
  obtain ⟨noDrain, noClose⟩ := Bool.or_eq_false_iff.mp noVisit
  have closes : hasClosed (past ++ [(operation, outcome)]) = hasClosed past := by
    rw [hasClosed_concat, noClose, Bool.or_false]
  have observed : observedSinceDrain (past ++ [(operation, outcome)]) =
      observedSinceDrain past ++ outcome.observations := by
    rw [observedSinceDrain_concat, noDrain]
    rfl
  cases closed : hasClosed past with
  | true =>
    have isClosed : (logOfHistory capacity past).isOpen = false := by simp [logOfHistory, closed]
    rw [DecisionLog.offerAll_of_closed isClosed]
    simp [logOfHistory, closes, closed]
  | false =>
    have isOpen : (logOfHistory capacity past).isOpen = true := by simp [logOfHistory, closed]
    have waiting : (logOfHistory capacity past).waiting =
        (observedSinceDrain past).take (max capacity 1) := by simp [logOfHistory, closed]
    have fits : (logOfHistory capacity past).waiting.length ≤ max capacity 1 := by
      rw [waiting]
      exact List.length_take_le _ _
    rw [DecisionLog.offerAll_of_open isOpen fits, waiting]
    unfold logOfHistory
    rw [closes, observed, closed]
    simp only [Bool.false_eq_true, if_false]
    rw [DecisionLog.take_append_of_take]

/-- **What is observed is put into the log**, by every operation but the visits of the
collector. -/
theorem log_step {a : Authorizer} {log : DecisionLog} (kept : a.log = some log)
    {operation : Operation} (noVisit : operation.isVisit = false) :
    (a.step operation).next.log =
      some ((a.step operation).observations.foldl DecisionLog.offer log) := by
  obtain ⟨directory, audit, _⟩ := a
  cases kept
  rw [step_watched directory audit (some log) noVisit]
  rfl

/-- What the collector gets is what waits. -/
theorem step_drain {a : Authorizer} {log : DecisionLog} (kept : a.log = some log) :
    (a.step .drain).answer = .drained log.waiting ∧
      (a.step .drain).next.log = some log.drain.2 := by
  obtain ⟨directory, audit, _⟩ := a
  cases kept
  exact ⟨rfl, rfl⟩

theorem step_close {a : Authorizer} {log : DecisionLog} (kept : a.log = some log) :
    (a.step .close).next.log = some log.close := by
  obtain ⟨directory, audit, _⟩ := a
  cases kept
  rfl

/-- **The log is a function of the history.** -/
theorem log_run {a : Authorizer} {capacity : Nat} (empty : a.log = some (.ofCapacity capacity))
    (operations : List Operation) :
    (a.run operations).2.log = some (logOfHistory capacity (a.history operations)) := by
  refine history_preserves (P := fun past b => b.log = some (logOfHistory capacity past))
    (fun past b operation kept => ?_) ?_ operations
  · cases visit : operation.isVisit with
    | false => rw [log_step kept visit, logOfHistory_other capacity _ _ visit]
    | true =>
      cases operation with
      | drain => rw [(step_drain kept).2, logOfHistory_drain]
      | close => rw [step_close kept, logOfHistory_close]
      | _ => cases visit
  · have nothing : logOfHistory capacity [] = .ofCapacity capacity := by
      simp [logOfHistory, DecisionLog.ofCapacity, hasClosed, observedSinceDrain]
    exact empty.trans (congrArg some nothing.symm)

/-! ## Nobody notices -/

/-- **What a run says**: the answers, with what has been observed for them, to all operations
but the visits of the collector. -/
def sayings (a : Authorizer) (operations : List Operation) :
    List (Operation × Answer × List Observation) :=
  ((a.history operations).filter fun entry => !entry.1.isVisit).map fun entry =>
    (entry.1, entry.2.answer, entry.2.observations)

/-- **Everything is answered from the directory**, whoever watches. -/
theorem step_congr {a b : Authorizer} (same : b.directory = a.directory) {operation : Operation}
    (noVisit : operation.isVisit = false) :
    (b.step operation).answer = (a.step operation).answer ∧
      (b.step operation).observations = (a.step operation).observations ∧
      (b.step operation).next.directory = (a.step operation).next.directory := by
  obtain ⟨directory, audit, log⟩ := a
  obtain ⟨_, auditB, logB⟩ := b
  cases same
  rw [step_watched directory audit log noVisit, step_watched directory auditB logB noVisit]
  exact ⟨rfl, rfl, rfl⟩

/-- A visit of the collector leaves the directory as it is. -/
theorem directory_visit (a : Authorizer) {operation : Operation}
    (visit : operation.isVisit = true) :
    (a.step operation).next.directory = a.directory := by
  cases operation with
  | drain => exact a.directory_drain
  | close => rfl
  | _ => cases visit

/-- **Nobody notices whether the decisions are watched**, or when. -/
theorem sayings_congr {a b : Authorizer} (same : b.directory = a.directory)
    (operations : List Operation) :
    b.sayings (operations.filter fun operation => !operation.isVisit) = a.sayings operations := by
  induction operations generalizing a b with
  | nil => rfl
  | cons operation operations ih =>
    unfold sayings
    rw [history_cons, List.filter_cons, List.filter_cons]
    dsimp only
    cases visit : operation.isVisit with
    | true =>
      have next : b.directory = (a.step operation).next.directory :=
        same.trans (a.directory_visit visit).symm
      exact ih next
    | false =>
      obtain ⟨answer, observations, next⟩ := step_congr same visit
      have rest := ih next
      unfold sayings at rest
      simp only [Bool.not_false, if_true, history_cons, List.filter_cons, visit, List.map_cons]
      rw [answer, observations, rest]

/-- The audit settings ask for permissions, for all else, for both or for neither. -/
theorem covers_eq (audit : AuditSettings) (o : Observation) :
    audit.covers o = (o.verdict.isAllowed && audit.logAllowed ||
      !o.verdict.isAllowed && audit.logDenied) := by
  unfold AuditSettings.covers
  cases o.verdict.isAllowed <;> simp

/-- All operations of a run report what they have decided. -/
theorem reports_run (a : Authorizer) (operations : List Operation) :
    List.Forall₂ (fun operation (outcome : Outcome) =>
      Reports operation outcome.answer outcome.observations) operations (a.run operations).1 := by
  induction operations generalizing a with
  | nil => exact .nil
  | cons operation operations ih => exact .cons (a.reports_step operation) (ih _)

/-- **Decisions are watched exactly, and do not depend on it.**  Take an authorizer with any
directory, any audit settings and a log of any capacity, and any operations.

* Every operation reports what it has decided: one observation for each path, with the verdict
  from which the answer is made, and none where nothing is decided.
* To keep the permitted ones of some paths is to ask for them one by one, in their order.
* The audit events are the permissions, if the settings ask for them, and all other
  observations, if they ask for those, in the order of deciding.
* Whenever the collector of the log comes, it gets the oldest observations since it last came,
  as many as the capacity says and at least one, and nothing once it has gone.
* With any other audit settings, with any other log or none, and without the visits of the
  collector, everything else is answered and observed in the same way. -/
theorem decisions_are_watched_exactly (directory : Directory) (audit : AuditSettings)
    (capacity : Nat) (operations : List Operation) :
    let a : Authorizer := ⟨directory, audit, some (.ofCapacity capacity)⟩
    List.Forall₂ (fun operation (outcome : Outcome) =>
      Reports operation outcome.answer outcome.observations) operations (a.run operations).1 ∧
    (∀ subject action paths,
      let b := (a.run operations).2
      let kept := b.step (.filterAllowed subject action paths)
      let asked := b.run (paths.map (.isAllowed subject action))
      kept.observations = asked.1.flatMap (·.observations) ∧ kept.next = asked.2) ∧
    a.auditTrail operations =
      ((a.run operations).1.flatMap (·.observations)).filter (fun o =>
        o.verdict.isAllowed && audit.logAllowed || !o.verdict.isAllowed && audit.logDenied) ∧
    (∀ past outcome later, a.history operations = past ++ (.drain, outcome) :: later →
      outcome.answer = .drained
        (if hasClosed past then [] else (observedSinceDrain past).take (max capacity 1))) ∧
    ∀ otherAudit otherLog,
      sayings ⟨directory, otherAudit, otherLog⟩ (operations.filter fun o => !o.isVisit) =
        a.sayings operations := by
  intro a
  refine ⟨a.reports_run operations, ?_, ?_, ?_, ?_⟩
  · intro subject action paths b kept asked
    exact b.step_filterAllowed subject action paths
  · rw [auditTrail_eq]
    congr 1
    funext o
    exact covers_eq audit o
  · intro past outcome later here
    obtain ⟨before, rfl, rfl⟩ := exists_of_history here
    exact (step_drain (log_run rfl before)).1
  · intro otherAudit otherLog
    exact sayings_congr (a := a) (b := ⟨directory, otherAudit, otherLog⟩) rfl operations

/-- A log that has room for one observation gets four.  The collector comes after the first
three, which are about two paths and one more request, and gets the first of them.  Then it goes,
and it gets nothing any more. -/
theorem full_log_keeps_the_first :
    let reader : Policy :=
      ⟨"reader", [⟨.allow, [⟨[.any], by simp⟩], [⟨[.any], false, by simp⟩]⟩], by decide, by decide⟩
    let a : Authorizer := ⟨.empty none, ⟨true, false⟩, some (.ofCapacity 0)⟩
    let before : List Operation :=
      [.install reader, .grant (.user "ann") ⟨.policy, "reader", .empty⟩,
        .filterAllowed (.user "ann") "read" ["a", "a/b"], .isAllowed (.user "bob") "read" "a"]
    let after : List Operation := [.close, .isAllowed (.user "ann") "read" "b"]
    let first : Observation := ⟨.user "ann", "read", "a", ⟨.allow, .empty, some "reader"⟩⟩
    ((a.run before).2.step .drain).answer = .drained [first] ∧
      ((a.run (before ++ .drain :: after)).2.step .drain).answer = .drained [] ∧
      (a.auditTrail (before ++ .drain :: after)).map (·.path) = ["a", "b"] := by
  intro reader a before after first
  have early := (decisions_are_watched_exactly (.empty none) ⟨true, false⟩ 0
    (before ++ [.drain])).2.2.2.1 (a.history before) ((a.run before).2.step .drain) []
      (a.history_concat before .drain)
  have late := (decisions_are_watched_exactly (.empty none) ⟨true, false⟩ 0
    ((before ++ .drain :: after) ++ [.drain])).2.2.2.1 (a.history (before ++ .drain :: after))
      ((a.run (before ++ .drain :: after)).2.step .drain) []
      (a.history_concat (before ++ .drain :: after) .drain)
  have notClosed : hasClosed (a.history before) = false := by decide +kernel
  have closed : hasClosed (a.history (before ++ .drain :: after)) = true := by decide +kernel
  have oldest : (observedSinceDrain (a.history before)).take (max 0 1) = [first] := by
    decide +kernel
  rw [notClosed, if_neg (by decide), oldest] at early
  rw [closed, if_pos rfl] at late
  exact ⟨early, late, by decide +kernel⟩

end Authorizer

end Gatehouse
