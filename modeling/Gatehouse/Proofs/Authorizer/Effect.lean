import Gatehouse.Proofs.Authorizer.Transparency

/-!
# What an operation does to the registry

There is more to an authorizer than its registry, but the registry goes its own way.  What an
operation does to it is a function of the operation and the registry alone
(`Operation.effect`): no memo, no log and no earlier decision has a part in it
(`registry_step`).  Most operations do nothing to it at all.

A fact about registries that every effect keeps therefore holds after every run
(`registry_run_preserves`), and what a fresh directory answers is determined by the effects so
far.
-/

namespace Gatehouse

namespace Directory

/-- No memo, or one that has not been used, of this capacity and with this batch. -/
def unusedMemo (size : Option (Nat × Nat)) : Option ResolutionMemo :=
  size.map fun (capacity, batch) => .empty capacity batch

theorem fresh_unusedMemo (registry : Registry) (size : Option (Nat × Nat)) :
    Fresh ⟨registry, unusedMemo size⟩ := by
  cases size with
  | none =>
    intro memo kept
    cases kept
  | some size => exact fresh_of_empty registry size.1 size.2

end Directory

namespace Authorizer

/-- What an operation does to the registry.  One that fails does nothing. -/
def Operation.effect (r : Registry) : Operation → Registry
  | .install policy => r.install policy
  | .defineRole role =>
    match r.defineRole role with
    | .error _ => r
    | .ok registry => registry
  | .grant subject granted =>
    match r.grant subject granted with
    | .error _ => r
    | .ok result => result.2
  | .revoke subject kind name => (r.revoke subject kind name).2
  | _ => r

/-! ## One operation -/

theorem registry_decide (a : Authorizer) (subject : Subject) (action path : String) :
    (a.decide subject action path).2.directory.registry = a.directory.registry :=
  a.directory.registry_policiesFor subject

theorem registry_decideAll (a : Authorizer) (subject : Subject) (action : String)
    (paths : List String) :
    (a.decideAll subject action paths).2.directory.registry = a.directory.registry := by
  induction paths generalizing a with
  | nil => rfl
  | cons path paths ih => exact (ih _).trans (a.registry_decide subject action path)

/-- **The registry goes its own way.** -/
theorem registry_step (a : Authorizer) (operation : Operation) :
    (a.step operation).next.directory.registry = operation.effect a.directory.registry := by
  cases operation with
  | defineRole role =>
    unfold step Directory.defineRole Operation.effect
    dsimp only
    cases a.directory.registry.defineRole role <;> rfl
  | grant subject grant =>
    unfold step Directory.grant Operation.effect
    dsimp only
    cases a.directory.registry.grant subject grant <;> rfl
  | policiesFor subject => exact a.directory.registry_policiesFor subject
  | authorize subject action path => exact a.registry_decide subject action path
  | isAllowed subject action path => exact a.registry_decide subject action path
  | require subject action path => exact a.registry_decide subject action path
  | authorizeEntity subject kind verb fields =>
    unfold step
    dsimp only
    cases kind.request verb fields with
    | error fault => rfl
    | ok request => exact a.registry_decide subject request.1 request.2
  | filterAllowed subject action paths => exact a.registry_decideAll subject action paths
  | drain => exact congrArg Directory.registry a.directory_drain
  | _ => rfl

theorem answer_defineRole (a : Authorizer) (role : Role) :
    (a.step (.defineRole role)).answer =
      .defined ((a.directory.registry.defineRole role).map fun _ => ()) := by
  unfold step Directory.defineRole
  dsimp only
  cases a.directory.registry.defineRole role <;> rfl

/-- What a fresh directory resolves after an operation is determined by its effect. -/
theorem policiesFor_next {a : Authorizer} (fresh : a.directory.Fresh) (operation : Operation)
    (subject : Subject) :
    ((a.step operation).next.directory.policiesFor subject).1 =
      (operation.effect a.directory.registry).policiesFor subject := by
  rw [(Directory.policiesFor_of_fresh (fresh_step fresh operation) subject).1, registry_step]

/-! ## Runs -/

/-- What every effect keeps is true of the registry after every run. -/
theorem registry_run_preserves {P : Registry → Prop}
    (keeps : ∀ (r : Registry) (operation : Operation), P r → P (operation.effect r))
    {a : Authorizer} (initial : P a.directory.registry) (operations : List Operation) :
    P (a.run operations).2.directory.registry := by
  induction operations generalizing a with
  | nil => exact initial
  | cons operation operations ih =>
    refine ih ?_
    rw [registry_step]
    exact keeps _ operation initial

/-- Directories stay fresh along runs. -/
theorem fresh_run {a : Authorizer} (fresh : a.directory.Fresh) (operations : List Operation) :
    (a.run operations).2.directory.Fresh := by
  induction operations generalizing a with
  | nil => exact fresh
  | cons operation operations ih => exact ih (fresh_step fresh operation)

end Authorizer

end Gatehouse
