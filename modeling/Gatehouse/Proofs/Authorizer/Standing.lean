import Gatehouse.Proofs.Authorizer.History
import Gatehouse.Proofs.Authorizer.Isolation
import Gatehouse.Proofs.Registry.Distinct
import Gatehouse.Proofs.Registry.Integrity

/-!
# The grants that stand

What a subject has been granted is determined by what has been asked for, and this module says
how, without a registry.  A grant that has been given stands until something takes it away, and
what takes it away is told by kind and name alone (`Operation.takes`).  The grants of a subject
are those that stand, in the order in which they were given, without the repetitions
(`grantsStand_run`).

The order matters, because later grants override earlier ones.  A grant that is given again
while it stands keeps its place, and one that has been taken away in between comes last.

A call that fails, or that finds nothing to do, leaves the registry as it is
(`registry_of_declines`).
-/

namespace Gatehouse.Authorizer

/-! ## What the past tells -/

/-- The grant that has been given to a subject, whether it was new or not. -/
def given? (subject : Subject) (entry : Operation × Outcome) : Option Grant :=
  match entry.1, entry.2.answer with
  | .grant other grant, .changed (.ok _) => if other = subject then some grant else none
  | _, _ => none

/-- The operation takes this grant from the subject, with all others of its kind and name. -/
def Operation.takes (subject : Subject) (grant : Grant) : Operation → Bool
  | .revoke other kind name => other = subject && grant.isOf kind name
  | _ => false

/-- **What stands**: all that has been given to a subject and not been taken away later, in the
order of giving. -/
def standing (subject : Subject) : List (Operation × Outcome) → List Grant
  | [] => []
  | entry :: later =>
    ((given? subject entry).toList.filter fun grant =>
      !later.any fun other => other.1.takes subject grant) ++ standing subject later

theorem standing_cons (subject : Subject) (entry : Operation × Outcome)
    (later : List (Operation × Outcome)) :
    standing subject (entry :: later) =
      ((given? subject entry).toList.filter fun grant =>
        !later.any fun other => other.1.takes subject grant) ++ standing subject later :=
  rfl

/-- **One operation more** takes away what it takes away, and adds what it gives. -/
theorem standing_concat (subject : Subject) (past : List (Operation × Outcome))
    (entry : Operation × Outcome) :
    standing subject (past ++ [entry]) =
      ((standing subject past).filter fun grant => !entry.1.takes subject grant) ++
        (given? subject entry).toList := by
  induction past with
  | nil => simp [standing]
  | cons first past ih =>
    -- Nothing later takes it, if nothing in `past` does and the last entry does not.
    have later : ∀ grant, (!(past ++ [entry]).any fun other => other.1.takes subject grant) =
        (!entry.1.takes subject grant &&
          !past.any fun other => other.1.takes subject grant) := by
      intro grant
      rw [List.any_append, Bool.not_or, Bool.and_comm]
      simp
    rw [List.cons_append, standing_cons, standing_cons, ih, List.filter_append,
      List.filter_filter, List.append_assoc]
    simp only [later]

/-- An operation that is no grant and no revocation does not count. -/
theorem standing_of_other (subject : Subject) (past : List (Operation × Outcome))
    {entry : Operation × Outcome} (gives : given? subject entry = none)
    (takes : ∀ grant, entry.1.takes subject grant = false) :
    standing subject (past ++ [entry]) = standing subject past := by
  rw [standing_concat, gives]
  simp [takes]

/-! ## What is answered -/

theorem answer_grant (a : Authorizer) (subject : Subject) (grant : Grant) :
    (a.step (.grant subject grant)).answer =
      .changed ((a.directory.registry.grant subject grant).map (·.1)) :=
  congrArg Prod.fst (a.said_grant subject grant)

/-- The answer is a failure or a `false`. -/
def Answer.declines : Answer → Bool
  | .defined (.error _) | .changed (.error _) | .changed (.ok false) => true
  | .verdict (.error _) | .permission false _ | .access (.error _) => true
  | _ => false

/-- **Where nothing is done, nothing is changed.** -/
theorem registry_of_declines {a : Authorizer} {operation : Operation}
    (declines : (a.step operation).answer.declines = true) :
    (a.step operation).next.directory.registry = a.directory.registry := by
  rw [registry_step]
  cases operation with
  | install policy => cases declines
  | defineRole role =>
    rw [answer_defineRole] at declines
    unfold Operation.effect
    dsimp only
    cases defined : a.directory.registry.defineRole role with
    | error fault => rfl
    | ok registry =>
      rw [defined] at declines
      cases declines
  | grant subject grant =>
    rw [answer_grant] at declines
    unfold Operation.effect
    dsimp only
    cases granted : a.directory.registry.grant subject grant with
    | error fault => rfl
    | ok result =>
      rw [granted] at declines
      rcases Registry.grant_cases granted with ⟨-, rfl⟩ | ⟨-, rfl⟩
      · rfl
      · cases declines
  | revoke subject kind name =>
    have answer : (a.step (.revoke subject kind name)).answer =
        .changed (.ok (a.directory.registry.revoke subject kind name).1) := rfl
    unfold Operation.effect
    dsimp only
    rcases a.directory.registry.revoke_cases subject kind name with ⟨-, eq⟩ | ⟨-, eq⟩
    · rw [eq]
    · rw [answer, eq] at declines
      cases declines
  | _ => rfl

/-! ## The grants of a run -/

/-- **The registry has the grants that stand**, none of them twice. -/
def GrantsStand (past : List (Operation × Outcome)) (a : Authorizer) : Prop :=
  ∀ subject, a.directory.registry.grantsOf subject = (standing subject past).eraseDups

namespace GrantsStand

variable {past : List (Operation × Outcome)} {a : Authorizer}

theorem of_other (stand : GrantsStand past a) {operation : Operation}
    (gives : ∀ subject, given? subject (operation, a.step operation) = none)
    (takes : ∀ subject grant, operation.takes subject grant = false)
    (same : ∀ subject, (operation.effect a.directory.registry).grantsOf subject =
      a.directory.registry.grantsOf subject) :
    GrantsStand (past ++ [(operation, a.step operation)]) (a.step operation).next := by
  intro subject
  rw [registry_step, same, standing_of_other subject past (gives subject) (takes subject)]
  exact stand subject

theorem grant (stand : GrantsStand past a) (subject : Subject) (grant : Grant) :
    GrantsStand (past ++ [(.grant subject grant, a.step (.grant subject grant))])
      (a.step (.grant subject grant)).next := by
  have answer := a.answer_grant subject grant
  cases granted : a.directory.registry.grant subject grant with
  | error fault =>
    rw [granted] at answer
    refine stand.of_other (fun other => ?_) (fun other grant => rfl) (fun other => ?_)
    · unfold given?
      rw [answer]
      rfl
    · unfold Operation.effect
      dsimp only
      rw [granted]
  | ok result =>
    rw [granted] at answer
    intro other
    have gives : given? other (.grant subject grant, a.step (.grant subject grant)) =
        if subject = other then some grant else none := by
      unfold given?
      rw [answer]
      rfl
    have next : (a.step (.grant subject grant)).next.directory.registry = result.2 := by
      rw [registry_step]
      unfold Operation.effect
      dsimp only
      rw [granted]
    rw [next, Registry.grantsOf_of_grant stand granted, standing_concat, gives]
    by_cases same : subject = other <;> simp [same, Operation.takes]

theorem revoke (stand : GrantsStand past a) (subject : Subject) (kind : GrantKind)
    (name : String) :
    GrantsStand (past ++ [(.revoke subject kind name, a.step (.revoke subject kind name))])
      (a.step (.revoke subject kind name)).next := by
  intro other
  have gives : given? other (.revoke subject kind name, a.step (.revoke subject kind name)) =
      none := rfl
  rw [registry_step, standing_concat, gives, Option.toList_none, List.append_nil]
  exact Registry.grantsOf_of_revoke stand subject kind name other

/-- **Every operation keeps the account.** -/
theorem step (past : List (Operation × Outcome)) (a : Authorizer) (operation : Operation)
    (stand : GrantsStand past a) :
    GrantsStand (past ++ [(operation, a.step operation)]) (a.step operation).next := by
  cases operation with
  | grant subject grant => exact stand.grant subject grant
  | revoke subject kind name => exact stand.revoke subject kind name
  | defineRole role =>
    refine stand.of_other (fun subject => rfl) (fun subject grant => rfl) fun subject => ?_
    unfold Operation.effect
    dsimp only
    cases defined : a.directory.registry.defineRole role with
    | error fault => rfl
    | ok registry => exact Registry.grantsOf_defineRole defined subject
  | _ => exact stand.of_other (fun subject => rfl) (fun subject grant => rfl) fun subject => rfl

end GrantsStand

/-- The registry has the grants that stand, whatever has happened. -/
theorem grantsStand_run (memo : Option ResolutionMemo) (audit : AuditSettings)
    (log : Option DecisionLog) (operations : List Operation) :
    let a : Authorizer := ⟨.empty memo, audit, log⟩
    GrantsStand (a.history operations) (a.run operations).2 :=
  history_preserves GrantsStand.step (fun _ => rfl) operations

/-- **The grants of a subject are those that stand.**  Take any run of an authorizer that starts
with an empty registry, with a memo of any size or without one.

* A subject has what has been given to it and has not been taken away later, where taking away
  goes by kind and name and does not look at variables.  Nothing is there twice, and the order
  is that in which each grant was given first since it was last taken away.
* To grant something is answered with `true` if the subject did not have it, and with `false` if
  it did.  It fails if there is no such policy or role.
* To take something away never fails, and is answered with `true` if anything has gone.
* Whatever is answered with a failure or with `false` leaves the registry as it is, and with it
  all policies, roles and grants; and everybody's list of policies is the same afterwards. -/
theorem grants_are_those_that_stand (size : Option (Nat × Nat)) (audit : AuditSettings)
    (log : Option DecisionLog) (operations : List Operation) :
    let a : Authorizer := ⟨.empty (Directory.unusedMemo size), audit, log⟩
    let past := a.history operations
    let b := (a.run operations).2
    let r := b.directory.registry
    (∀ subject, r.grantsOf subject = (standing subject past).eraseDups ∧
      (r.grantsOf subject).Nodup) ∧
    (∀ subject grant,
      let answer := (b.step (.grant subject grant)).answer
      (answer = .changed (.ok true) ↔ r.Leads grant ∧ grant ∉ r.grantsOf subject) ∧
        (answer = .changed (.ok false) ↔ grant ∈ r.grantsOf subject) ∧
        ((∃ fault, answer = .changed (.error fault)) ↔ ¬ r.Leads grant)) ∧
    (∀ subject kind name,
      let outcome := b.step (.revoke subject kind name)
      ∃ changed, outcome.answer = .changed (.ok changed) ∧
        (changed = true ↔ ∃ grant ∈ r.grantsOf subject,
          grant ∉ outcome.next.directory.registry.grantsOf subject)) ∧
    ∀ operation,
      let outcome := b.step operation
      outcome.answer.declines = true →
        outcome.next.directory.registry = r ∧
        ∀ subject, (outcome.next.directory.policiesFor subject).1 =
          (b.directory.policiesFor subject).1 := by
  intro a past b r
  have intact : r.Intact := intact_run _ audit log operations
  have fresh : b.directory.Fresh := fresh_run (Directory.fresh_unusedMemo .empty size) operations
  refine ⟨fun subject => ⟨grantsStand_run _ audit log operations subject, intact.distinct subject⟩,
    fun subject grant => ?_, fun subject kind name => ?_, fun operation => ?_⟩
  · rw [answer_grant]
    simpa only [Answer.changed.injEq] using intact.grant_report subject grant
  · exact ⟨_, rfl, r.revoke_report subject kind name⟩
  · intro outcome declines
    have same : outcome.next.directory.registry = r := registry_of_declines declines
    refine ⟨same, fun subject => ?_⟩
    rw [(Directory.policiesFor_of_fresh (fresh_step fresh operation) subject).1,
      (Directory.policiesFor_of_fresh fresh subject).1]
    exact congrArg (Registry.policiesFor · subject) same

end Gatehouse.Authorizer
