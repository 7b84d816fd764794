import Gatehouse.Proofs.Authorizer.Effect

/-!
# Subjects are isolated from each other

What a subject is told depends on the policies and roles, on its own grants and on those of
the default subject.  It does not depend on what is granted to anybody else, and not on who
has asked what before.  So operations of these kinds can be struck out of a run, and nobody
can tell who asks about this subject alone (`unrelated_operations_do_not_matter`).

Two registries are compared through what they look like to one subject (`LooksSame`).  An
operation that may be struck out does not change the looks (`Operation.Unrelated.looksSame`),
any other operation changes them in the same way on both sides (`effect_looksSame`), and the
answers about the subject are determined by them (`said_step`).

### What is load-bearing

Questions change an authorizer: they fill the memo, drive entries out of it, and are written
to the log.  That no answer shows this is a matter of freshness, and the memos of the two runs
need not have anything in common.  The log may differ, and it is for this reason that
collecting it is not an answer about a subject.

A user who is called `default` is not the default subject, and its grants can be struck out
like anybody else's.
-/

namespace Gatehouse

namespace Registry

/-- **Two registries look the same to a subject.** -/
structure LooksSame (subject : Subject) (r s : Registry) : Prop where
  policies : s.policies = r.policies
  roles : s.roles = r.roles
  everybody : s.grantsOf .default = r.grantsOf .default
  own : s.grantsOf subject = r.grantsOf subject

namespace LooksSame

variable {subject : Subject} {r s : Registry}

theorem refl (subject : Subject) (r : Registry) : LooksSame subject r r := ⟨rfl, rfl, rfl, rfl⟩

theorem symm (same : LooksSame subject r s) : LooksSame subject s r :=
  ⟨same.policies.symm, same.roles.symm, same.everybody.symm, same.own.symm⟩

theorem trans {t : Registry} (first : LooksSame subject r s) (second : LooksSame subject s t) :
    LooksSame subject r t :=
  ⟨second.policies.trans first.policies, second.roles.trans first.roles,
    second.everybody.trans first.everybody, second.own.trans first.own⟩

/-- What is granted to somebody else makes no difference. -/
theorem of_sameExcept {other : Subject} (frame : SameExcept other r s) (apart : other ≠ subject)
    (notDefault : other ≠ .default) : LooksSame subject r s where
  policies := frame.policies
  roles := frame.roles
  everybody := frame.grants .default notDefault.symm
  own := frame.grants subject apart.symm

theorem grantsOf (same : LooksSame subject r s) {other : Subject}
    (related : other = subject ∨ other = .default) : s.grantsOf other = r.grantsOf other := by
  rcases related with rfl | rfl
  · exact same.own
  · exact same.everybody

/-- **The subject has the same policies in both.** -/
theorem policiesFor (same : LooksSame subject r s) :
    s.policiesFor subject = r.policiesFor subject := by
  have effective : s.effectiveGrants subject = r.effectiveGrants subject := by
    unfold effectiveGrants
    rw [same.everybody, same.own]
  unfold Registry.policiesFor
  rw [effective, expand_congr same.policies same.roles]

/-! ### Operations on both sides -/

theorem install (same : LooksSame subject r s) (policy : Policy) :
    LooksSame subject (r.install policy) (s.install policy) where
  policies := by
    unfold Registry.install
    dsimp only
    rw [same.policies]
  roles := same.roles
  everybody := same.everybody
  own := same.own

theorem set_grants (same : LooksSame subject r s) (other : Subject) (grants : List Grant) :
    LooksSame subject { r with grants := r.grants.set other grants }
      { s with grants := s.grants.set other grants } where
  policies := same.policies
  roles := same.roles
  everybody := by rw [grantsOf_set, grantsOf_set, same.everybody]
  own := by rw [grantsOf_set, grantsOf_set, same.own]

theorem grantFault? (same : LooksSame subject r s) (grant : Grant) :
    s.grantFault? grant = r.grantFault? grant := by
  unfold Registry.grantFault?
  rw [same.policies, same.roles]

theorem roleFault? (same : LooksSame subject r s) (role : Role) :
    s.roleFault? role = r.roleFault? role := by
  unfold Registry.roleFault?
  rw [same.policies]

/-- Two results of one operation: the same fault, or the same report on registries that look
the same. -/
inductive SameResult (subject : Subject) :
    Except RegistryFault (Bool × Registry) → Except RegistryFault (Bool × Registry) → Prop where
  | error (fault : RegistryFault) : SameResult subject (.error fault) (.error fault)
  | ok (changed : Bool) {r s : Registry} (same : LooksSame subject r s) :
      SameResult subject (.ok (changed, r)) (.ok (changed, s))

theorem grant (same : LooksSame subject r s) {other : Subject}
    (related : other = subject ∨ other = .default) (grant : Grant) :
    SameResult subject (r.grant other grant) (s.grant other grant) := by
  unfold Registry.grant
  rw [same.grantFault?, same.grantsOf related]
  cases r.grantFault? grant with
  | some fault => exact .error fault
  | none =>
    dsimp only
    split
    · exact .ok false same
    · exact .ok true (same.set_grants other _)

theorem revoke (same : LooksSame subject r s) {other : Subject}
    (related : other = subject ∨ other = .default) (kind : GrantKind) (name : String) :
    (s.revoke other kind name).1 = (r.revoke other kind name).1 ∧
      LooksSame subject (r.revoke other kind name).2 (s.revoke other kind name).2 := by
  unfold Registry.revoke
  rw [same.grantsOf related]
  dsimp only
  split
  · exact ⟨rfl, same.set_grants other _⟩
  · exact ⟨rfl, same⟩

end LooksSame

end Registry

namespace Authorizer

namespace Operation

/-! ## Operations and their subjects -/

/-- Who the operation is about. -/
def subject? : Operation → Option Subject
  | install _ | defineRole _ | drain | close => none
  | grant subject _ | revoke subject _ _ => some subject
  | grantsOf subject | policiesFor subject => some subject
  | authorize subject _ _ | isAllowed subject _ _ | require subject _ _ => some subject
  | authorizeEntity subject _ _ _ | filterAllowed subject _ _ => some subject

/-- **The operation has nothing to do with a subject**: it grants something to somebody else,
or takes it away, or it is a question, of anybody. -/
def Unrelated (subject : Subject) : Operation → Prop
  | grant other _ | revoke other _ _ => other ≠ subject ∧ other ≠ .default
  | install _ | defineRole _ | drain | close => False
  | _ => True

end Operation

open Registry (LooksSame)

variable {subject : Subject} {r s : Registry}

theorem Operation.Unrelated.looksSame {operation : Operation}
    (unrelated : operation.Unrelated subject) (r : Registry) :
    LooksSame subject r (operation.effect r) := by
  cases operation with
  | install policy => cases unrelated
  | defineRole role => cases unrelated
  | grant other grant =>
    unfold Operation.effect
    dsimp only
    cases granted : r.grant other grant with
    | error fault => exact .refl subject r
    | ok result =>
      rcases Registry.regrants_grant granted with rfl | ⟨-, frame⟩
      · exact .refl subject r
      · exact .of_sameExcept frame unrelated.1 unrelated.2
  | revoke other kind name =>
    unfold Operation.effect
    dsimp only
    rcases r.regrants_revoke other kind name with eq | ⟨-, frame⟩
    · rw [eq]
      exact .refl subject r
    · exact .of_sameExcept frame unrelated.1 unrelated.2
  | _ => exact .refl subject r

/-- **Whatever is done to both registries, they look the same afterwards.** -/
theorem effect_looksSame (same : LooksSame subject r s) (operation : Operation) :
    LooksSame subject (operation.effect r) (operation.effect s) := by
  by_cases unrelated : operation.Unrelated subject
  · -- Either registry looks as it did.
    exact ((unrelated.looksSame r).symm.trans same).trans (unrelated.looksSame s)
  · cases operation with
    | install policy => exact same.install policy
    | defineRole role =>
      unfold Operation.effect Registry.defineRole
      dsimp only
      rw [same.roleFault?]
      cases r.roleFault? role with
      | some fault => exact same
      | none =>
        exact ⟨same.policies, by dsimp only; rw [same.roles], same.everybody, same.own⟩
    | grant other grant =>
      have related : other = subject ∨ other = .default :=
        Decidable.of_not_not fun apart => unrelated (not_or.mp apart)
      have results := same.grant related grant
      unfold Operation.effect
      dsimp only
      generalize r.grant other grant = first at results ⊢
      generalize s.grant other grant = second at results ⊢
      cases results with
      | error fault => exact same
      | ok changed after => exact after
    | revoke other kind name =>
      have related : other = subject ∨ other = .default :=
        Decidable.of_not_not fun apart => unrelated (not_or.mp apart)
      exact (same.revoke related kind name).2
    | drain => exact same
    | close => exact same
    | _ => exact absurd trivial unrelated

/-! ## Answers -/

/-- What an outcome tells: the answer, and what has been observed. -/
def Outcome.said (o : Outcome) : Answer × List Observation := (o.answer, o.observations)

/-- A fresh directory decides from what the registry resolves. -/
theorem decide_of_fresh {a : Authorizer} (fresh : a.directory.Fresh) (subject : Subject)
    (action path : String) :
    (a.decide subject action path).1 =
      ⟨subject, action, path,
        .ofInstances (a.directory.registry.policiesFor subject) action path⟩ := by
  unfold Authorizer.decide
  dsimp only
  rw [(Directory.policiesFor_of_fresh fresh subject).1]

theorem decideAll_of_fresh {a : Authorizer} (fresh : a.directory.Fresh) (subject : Subject)
    (action : String) (paths : List String) :
    (a.decideAll subject action paths).1 = paths.map fun path =>
      ⟨subject, action, path,
        .ofInstances (a.directory.registry.policiesFor subject) action path⟩ := by
  induction paths generalizing a with
  | nil => rfl
  | cons path paths ih =>
    rw [decideAll_cons, decide_of_fresh fresh, ih (fresh_decide fresh subject action path),
      registry_decide]
    rfl

theorem said_deciding {a b : Authorizer} (freshA : a.directory.Fresh)
    (freshB : b.directory.Fresh)
    (same : LooksSame subject a.directory.registry b.directory.registry) (action path : String)
    (answer : Observation → Answer) :
    (b.deciding subject action path answer).said =
      (a.deciding subject action path answer).said := by
  unfold deciding Outcome.said
  dsimp only
  rw [decide_of_fresh freshA, decide_of_fresh freshB, same.policiesFor]

theorem said_grant (a : Authorizer) (subject : Subject) (grant : Grant) :
    (a.step (.grant subject grant)).said =
      (.changed ((a.directory.registry.grant subject grant).map (·.1)), []) := by
  unfold step Directory.grant
  dsimp only
  cases a.directory.registry.grant subject grant <;> rfl

/-- **Where the registries look the same, the answers are the same.** -/
theorem said_step {a b : Authorizer} (freshA : a.directory.Fresh) (freshB : b.directory.Fresh)
    (same : LooksSame subject a.directory.registry b.directory.registry) {operation : Operation}
    (about : operation.subject? = some subject) :
    (b.step operation).said = (a.step operation).said := by
  cases operation with
  | install policy => cases about
  | defineRole role => cases about
  | drain => cases about
  | close => cases about
  | grant other grant =>
    cases about
    have results := same.grant (Or.inl rfl) grant
    rw [said_grant, said_grant]
    generalize a.directory.registry.grant subject grant = first at results ⊢
    generalize b.directory.registry.grant subject grant = second at results ⊢
    cases results <;> rfl
  | revoke other kind name =>
    cases about
    have report := (same.revoke (Or.inl rfl) kind name).1
    exact congrArg (fun changed => (Answer.changed (.ok changed), [])) report
  | grantsOf other =>
    cases about
    exact congrArg (fun grants => (Answer.grants grants, [])) same.own
  | policiesFor other =>
    cases about
    have first := (Directory.policiesFor_of_fresh freshA subject).1
    have second := (Directory.policiesFor_of_fresh freshB subject).1
    exact congrArg (fun instances => (Answer.policies instances, []))
      (second.trans (same.policiesFor.trans first.symm))
  | authorize other action path =>
    cases about
    exact said_deciding freshA freshB same action path _
  | isAllowed other action path =>
    cases about
    exact said_deciding freshA freshB same action path _
  | require other action path =>
    cases about
    exact said_deciding freshA freshB same action path _
  | authorizeEntity other kind verb fields =>
    cases about
    unfold step
    dsimp only
    cases kind.request verb fields with
    | error fault => rfl
    | ok request => exact said_deciding freshA freshB same request.1 request.2 _
  | filterAllowed other action paths =>
    cases about
    unfold step Outcome.said
    dsimp only
    rw [decideAll_of_fresh freshA, decideAll_of_fresh freshB, same.policiesFor]

/-! ## Runs -/

/-- An operation of a run, which may have been struck out. -/
structure Line where
  operation : Operation
  kept : Bool

/-- The operations of some lines, struck out or not. -/
def operations (lines : List Line) : List Operation := lines.map (·.operation)

/-- The lines that have not been struck out. -/
def remaining (lines : List Line) : List Line := lines.filter (·.kept)

/-- What is said about a subject on the lines that have not been struck out. -/
def saidAbout (subject : Subject) (lines : List Line) (outcomes : List Outcome) :
    List (Answer × List Observation) :=
  (lines.zip outcomes).filterMap fun entry =>
    if entry.1.kept ∧ entry.1.operation.subject? = some subject then some entry.2.said else none

theorem saidAbout_cons (subject : Subject) (line : Line) (lines : List Line) (outcome : Outcome)
    (outcomes : List Outcome) :
    saidAbout subject (line :: lines) (outcome :: outcomes) =
      (if line.kept ∧ line.operation.subject? = some subject then [outcome.said] else []) ++
        saidAbout subject lines outcomes := by
  unfold saidAbout
  rw [List.zip_cons_cons, List.filterMap_cons]
  dsimp only
  split <;> simp_all

/-- Authorizers whose registries look the same to a subject answer alike about it, where one
of them skips the lines that have been struck out. -/
theorem saidAbout_run {lines : List Line}
    (unrelated : ∀ line ∈ lines, line.kept = false → line.operation.Unrelated subject)
    {a b : Authorizer} (freshA : a.directory.Fresh) (freshB : b.directory.Fresh)
    (same : LooksSame subject a.directory.registry b.directory.registry) :
    saidAbout subject (remaining lines) (b.run (operations (remaining lines))).1 =
      saidAbout subject lines (a.run (operations lines)).1 := by
  induction lines generalizing a b with
  | nil => rfl
  | cons line lines ih =>
    have rest : ∀ other ∈ lines, other.kept = false → other.operation.Unrelated subject :=
      fun other mem => unrelated other (List.mem_cons_of_mem _ mem)
    have nextA : (a.step line.operation).next.directory.Fresh := fresh_step freshA line.operation
    have runA : (a.run (operations (line :: lines))).1 =
        a.step line.operation :: ((a.step line.operation).next.run (operations lines)).1 := rfl
    rw [runA, saidAbout_cons]
    cases kept : line.kept with
    | true =>
      have nextB : (b.step line.operation).next.directory.Fresh :=
        fresh_step freshB line.operation
      have after : LooksSame subject (a.step line.operation).next.directory.registry
          (b.step line.operation).next.directory.registry := by
        rw [registry_step, registry_step]
        exact effect_looksSame same line.operation
      have kept' : remaining (line :: lines) = line :: remaining lines :=
        List.filter_cons_of_pos kept
      have runB : (b.run (operations (line :: remaining lines))).1 =
          b.step line.operation ::
            ((b.step line.operation).next.run (operations (remaining lines))).1 := rfl
      rw [kept', runB, saidAbout_cons, ih rest nextA nextB after, kept]
      congr 1
      split
      · rename_i about
        rw [said_step freshA freshB same about.2]
      · rfl
    | false =>
      have skipped : remaining (line :: lines) = remaining lines :=
        List.filter_cons_of_neg (by simp [kept])
      have before : LooksSame subject (a.step line.operation).next.directory.registry
          b.directory.registry := by
        rw [registry_step]
        exact ((unrelated line List.mem_cons_self kept).looksSame _).symm.trans same
      rw [skipped, ih rest nextA freshB before]
      rfl

/-- **Unrelated operations do not matter.**  Take any run of an authorizer, with a memo of any
size or without one, and strike out any operations that have nothing to do with a subject:
grants to other subjects and their withdrawal, except for the default subject, and questions
of anybody.  Then everything that is still said about the subject is the same: its grants, its
policies, the decisions, and what is observed of them. -/
theorem unrelated_operations_do_not_matter (registry : Registry) (size : Option (Nat × Nat))
    (audit : AuditSettings) (log : Option DecisionLog) (subject : Subject) (lines : List Line)
    (unrelated : ∀ line ∈ lines, line.kept = false → line.operation.Unrelated subject) :
    let a : Authorizer := ⟨⟨registry, Directory.unusedMemo size⟩, audit, log⟩
    saidAbout subject (remaining lines) (a.run (operations (remaining lines))).1 =
      saidAbout subject lines (a.run (operations lines)).1 := by
  intro a
  have fresh : a.directory.Fresh := Directory.fresh_unusedMemo registry size
  exact saidAbout_run unrelated fresh fresh (.refl subject registry)

/-- A user called `default` is granted something, and a question about it drives the policies
of another user out of a memo that has room for one subject.  With both struck out, the other
user may still read. -/
theorem grant_to_user_called_default_does_not_matter :
    let policy : Policy :=
      ⟨"reader", [⟨.allow, [⟨[.any], by simp⟩], [⟨[.any], false, by simp⟩]⟩], by decide, by decide⟩
    let reads : Grant := ⟨.policy, "reader", .empty⟩
    let a : Authorizer := ⟨⟨.empty, Directory.unusedMemo (some (1, 1))⟩, .standard, none⟩
    let lines : List Line :=
      [⟨.install policy, true⟩, ⟨.grant (.user "ann") reads, true⟩,
        ⟨.isAllowed (.user "ann") "read" "report", true⟩, ⟨.grant (.user "default") reads, false⟩,
        ⟨.policiesFor (.user "default"), false⟩, ⟨.isAllowed (.user "ann") "read" "report", true⟩]
    let allowed (lines : List Line) : List Bool :=
      (saidAbout (.user "ann") lines (a.run (operations lines)).1).flatMap fun entry =>
        entry.2.map (·.verdict.isAllowed)
    (∀ line ∈ lines, line.kept = false → line.operation.Unrelated (.user "ann")) ∧
      allowed lines = [true, true] ∧ allowed (remaining lines) = allowed lines := by
  intro policy reads a lines allowed
  have unrelated : ∀ line ∈ lines, line.kept = false →
      line.operation.Unrelated (.user "ann") := by
    simp [lines, Operation.Unrelated]
  have same := unrelated_operations_do_not_matter .empty (some (1, 1)) .standard none
    (.user "ann") lines unrelated
  exact ⟨unrelated, by decide +kernel,
    congrArg (List.flatMap fun entry => entry.2.map (·.verdict.isAllowed)) same⟩

end Authorizer

end Gatehouse
