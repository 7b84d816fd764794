import Gatehouse.Authorizer.Operation
import Gatehouse.Proofs.Directory.Freshness

/-!
# Nobody can see the memo

Take an authorizer, and another one that is the same but for the memo of its directory,
which it lacks.  As long as the memo is fresh the two answer every operation alike, observe
the same, and stand in the same relation afterwards (`step_withoutMemo`).  Since freshness
is kept (`fresh_step`), they answer whole runs alike (`run_withoutMemo`).

Throwing the memo away is a function on authorizers, so the relation is an equation and the
simulation is a law of exchange: step and throw away, or throw away and step.
-/

namespace Gatehouse.Authorizer

/-- The authorizer with the memo of its directory thrown away. -/
def withoutMemo (a : Authorizer) : Authorizer := { a with directory := a.directory.withoutMemo }

@[simp] theorem directory_withoutMemo (a : Authorizer) :
    a.withoutMemo.directory = a.directory.withoutMemo := rfl

/-- The same answer and the same observations, with the memo thrown away afterwards. -/
def Outcome.withoutMemo (o : Outcome) : Outcome := { o with next := o.next.withoutMemo }

/-! ## Decisions -/

/-- A fresh directory decides from what the registry resolves. -/
theorem decide_withoutMemo {a : Authorizer} (fresh : a.directory.Fresh) (subject : Subject)
    (action path : String) :
    a.withoutMemo.decide subject action path =
      ((a.decide subject action path).1, (a.decide subject action path).2.withoutMemo) := by
  have same := (Directory.policiesFor_of_fresh fresh subject).1
  have bare := a.directory.withoutMemo_policiesFor subject
  unfold Authorizer.decide withoutMemo
  rw [Directory.policiesFor_withoutMemo]
  dsimp only
  rw [same, bare]

theorem fresh_decide {a : Authorizer} (fresh : a.directory.Fresh) (subject : Subject)
    (action path : String) : (a.decide subject action path).2.directory.Fresh :=
  (Directory.policiesFor_of_fresh fresh subject).2

theorem fresh_decideAll {a : Authorizer} (fresh : a.directory.Fresh) (subject : Subject)
    (action : String) (paths : List String) :
    (a.decideAll subject action paths).2.directory.Fresh := by
  induction paths generalizing a with
  | nil => exact fresh
  | cons path paths ih => exact ih (fresh_decide fresh subject action path)

theorem decideAll_withoutMemo {a : Authorizer} (fresh : a.directory.Fresh) (subject : Subject)
    (action : String) (paths : List String) :
    a.withoutMemo.decideAll subject action paths =
      ((a.decideAll subject action paths).1,
        (a.decideAll subject action paths).2.withoutMemo) := by
  induction paths generalizing a with
  | nil => rfl
  | cons path paths ih =>
    rw [decideAll_cons, decideAll_cons, decide_withoutMemo fresh]
    dsimp only
    rw [ih (fresh_decide fresh subject action path)]

theorem deciding_withoutMemo {a : Authorizer} (fresh : a.directory.Fresh) (subject : Subject)
    (action path : String) (answer : Observation → Answer) :
    a.withoutMemo.deciding subject action path answer =
      (a.deciding subject action path answer).withoutMemo := by
  unfold deciding Outcome.withoutMemo
  rw [decide_withoutMemo fresh]

theorem drain_withoutMemo (a : Authorizer) :
    a.withoutMemo.drain = (a.drain.1, a.drain.2.withoutMemo) := by
  obtain ⟨directory, audit, log⟩ := a
  cases log <;> rfl

theorem directory_drain (a : Authorizer) : a.drain.2.directory = a.directory := by
  obtain ⟨directory, audit, log⟩ := a
  cases log <;> rfl

/-! ## One operation -/

/-- **No operation makes a directory stale.** -/
theorem fresh_step {a : Authorizer} (fresh : a.directory.Fresh) (operation : Operation) :
    (a.step operation).next.directory.Fresh := by
  cases operation with
  | install policy => exact a.directory.fresh_install policy
  | defineRole role =>
    unfold step
    dsimp only
    cases defined : a.directory.defineRole role with
    | error fault => exact fresh
    | ok directory => exact Directory.fresh_defineRole defined
  | grant subject grant =>
    unfold step
    dsimp only
    cases granted : a.directory.grant subject grant with
    | error fault => exact fresh
    | ok result => exact Directory.fresh_grant fresh granted
  | revoke subject kind name => exact Directory.fresh_revoke fresh subject kind name
  | grantsOf subject => exact fresh
  | policiesFor subject => exact (Directory.policiesFor_of_fresh fresh subject).2
  | authorize subject action path => exact fresh_decide fresh subject action path
  | isAllowed subject action path => exact fresh_decide fresh subject action path
  | require subject action path => exact fresh_decide fresh subject action path
  | authorizeEntity subject kind verb fields =>
    unfold step
    dsimp only
    cases kind.request verb fields with
    | error fault => exact fresh
    | ok request => exact fresh_decide fresh subject request.1 request.2
  | filterAllowed subject action paths => exact fresh_decideAll fresh subject action paths
  | drain =>
    have kept : (a.step .drain).next.directory = a.directory := a.directory_drain
    rw [kept]
    exact fresh
  | close => exact fresh

/-- **Throwing the memo away commutes with every operation.** -/
theorem step_withoutMemo {a : Authorizer} (fresh : a.directory.Fresh) (operation : Operation) :
    a.withoutMemo.step operation = (a.step operation).withoutMemo := by
  cases operation with
  | install policy =>
    unfold step
    dsimp only
    rw [directory_withoutMemo, Directory.withoutMemo_install]
    rfl
  | defineRole role =>
    unfold step
    dsimp only
    rw [directory_withoutMemo, Directory.withoutMemo_defineRole]
    cases a.directory.defineRole role <;> rfl
  | grant subject grant =>
    unfold step
    dsimp only
    rw [directory_withoutMemo, Directory.withoutMemo_grant]
    cases a.directory.grant subject grant <;> rfl
  | revoke subject kind name =>
    unfold step
    dsimp only
    rw [directory_withoutMemo, Directory.withoutMemo_revoke]
    rfl
  | grantsOf subject => rfl
  | policiesFor subject =>
    have same := (Directory.policiesFor_of_fresh fresh subject).1
    have bare := a.directory.withoutMemo_policiesFor subject
    unfold step
    dsimp only
    rw [directory_withoutMemo, Directory.policiesFor_withoutMemo]
    dsimp only
    rw [← same, ← bare]
    rfl
  | authorize subject action path =>
    exact deciding_withoutMemo fresh subject action path fun o => .verdict (.ok o.verdict)
  | isAllowed subject action path =>
    exact deciding_withoutMemo fresh subject action path fun o =>
      .permission o.verdict.isAllowed o.verdict.bindings
  | require subject action path =>
    exact deciding_withoutMemo fresh subject action path fun o => .access o.access
  | authorizeEntity subject kind verb fields =>
    unfold step
    dsimp only
    cases kind.request verb fields with
    | error fault => rfl
    | ok request =>
      exact deciding_withoutMemo fresh subject request.1 request.2 fun o =>
        .verdict (.ok o.verdict)
  | filterAllowed subject action paths =>
    have decided := decideAll_withoutMemo fresh subject action paths
    unfold step
    dsimp only
    rw [decided]
    rfl
  | drain =>
    have drained := a.drain_withoutMemo
    unfold step
    dsimp only
    rw [drained]
    rfl
  | close => rfl

/-! ## Runs -/

/-- **Throwing the memo away commutes with runs.** -/
theorem run_withoutMemo {a : Authorizer} (fresh : a.directory.Fresh)
    (operations : List Operation) :
    a.withoutMemo.run operations =
      ((a.run operations).1.map (·.withoutMemo), (a.run operations).2.withoutMemo) := by
  induction operations generalizing a with
  | nil => rfl
  | cons operation operations ih =>
    have rest := ih (fresh_step fresh operation)
    rw [run_cons, run_cons, step_withoutMemo fresh]
    change (_ :: ((a.step operation).next.withoutMemo.run operations).1,
      ((a.step operation).next.withoutMemo.run operations).2) = _
    rw [rest]
    rfl

/-- **A memo does not show in the answers.**  Start two authorizers on the same registry, one
with a memo of any capacity and any batch, the other without, and let them carry out the
same operations: step by step they give the same answers and observe the same. -/
theorem run_same_answers_with_memo (registry : Registry) (audit : AuditSettings)
    (log : Option DecisionLog) (capacity batch : Nat) (operations : List Operation) :
    let remembering : Authorizer := ⟨⟨registry, some (.empty capacity batch)⟩, audit, log⟩
    let forgetful : Authorizer := ⟨⟨registry, none⟩, audit, log⟩
    (remembering.run operations).1.map (fun o => (o.answer, o.observations)) =
      (forgetful.run operations).1.map (fun o => (o.answer, o.observations)) := by
  intro remembering forgetful
  have fresh : remembering.directory.Fresh := Directory.fresh_of_empty registry capacity batch
  have runs : forgetful.run operations =
      ((remembering.run operations).1.map (·.withoutMemo),
        (remembering.run operations).2.withoutMemo) := run_withoutMemo fresh operations
  rw [runs, List.map_map]
  rfl

end Gatehouse.Authorizer
