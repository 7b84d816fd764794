import Gatehouse.Proofs.Registry.Integrity

/-!
# Policies and roles are replaced in place

Grants and roles refer to policies by name, and grants to roles.  Nothing is copied when
something is granted, so a policy that is installed in place of another one takes its place in
everybody's list at once, whether the name is reached by a grant or through roles, and however
often.  The list keeps its shape: `PolicyInstance.updated` is applied to each instance
(`Intact.policiesFor_install`).

A role that is defined anew changes the lists grant by grant.  Each grant of the role
contributes what the new role has, with the variables of the grant, and any other grant
contributes what it did (`expand_defineRole`).

### What is load-bearing

A name that is new changes nothing, and this is not a matter of course: a grant of a policy
that does not exist would come to life when the policy is installed.  There is no such grant in
an intact registry.  For the same reason an installed policy never adds an instance, and it
takes policies that stand under their own names to tell from an instance which name has led to
it.
-/

namespace Gatehouse

/-- The instance with a policy in place of another one of the same name. -/
def PolicyInstance.updated (i : PolicyInstance) (policy : Policy) : PolicyInstance :=
  if i.policy.name = policy.name then { i with policy } else i

namespace Registry

variable {r : Registry}

/-! ## Installing a policy -/

theorem policy?_install (r : Registry) (policy : Policy) (name : String) :
    (r.install policy).policy? name = if policy.name = name then some policy else r.policy? name :=
  r.policies.get?_insert policy.name policy name

/-- Names that lead somewhere lead to the same instances, brought up to date. -/
theorem Intact.instancesOf_install (intact : r.Intact) (policy : Policy) {names : List String}
    (installed : ∀ name ∈ names, (r.policy? name).isSome) (prebound : Bindings)
    (role : Option String) :
    (r.install policy).instancesOf names prebound role =
      (r.instancesOf names prebound role).map (·.updated policy) := by
  unfold instancesOf
  rw [List.map_filterMap]
  apply List.filterMap_congr
  intro name mem
  obtain ⟨old, found⟩ := Option.isSome_iff_exists.mp (installed name mem)
  have own : old.name = name := intact.policyNames name old found
  rw [policy?_install, found, Option.map_some, Option.map_some]
  unfold PolicyInstance.updated
  by_cases same : policy.name = name
  · rw [if_pos same, if_pos (own.trans same.symm)]
    rfl
  · rw [if_neg same, if_neg fun eq => same (eq.symm.trans own)]
    rfl

theorem Intact.expand_install (intact : r.Intact) (policy : Policy) {grant : Grant}
    (leads : r.Leads grant) :
    (r.install policy).expand grant = (r.expand grant).map (·.updated policy) := by
  unfold Leads at leads
  unfold expand
  cases kind : grant.kind with
  | policy =>
    rw [kind] at leads
    exact intact.instancesOf_install policy (by simpa using leads) grant.prebound none
  | role =>
    have roles : (r.install policy).role? grant.name = r.role? grant.name := rfl
    dsimp only
    rw [roles]
    cases defined : r.role? grant.name with
    | none => rfl
    | some role =>
      exact intact.instancesOf_install policy (intact.roles grant.name role defined)
        grant.prebound (some role.name)

/-- **A policy takes the place of another one** in every list. -/
theorem Intact.policiesFor_install (intact : r.Intact) (policy : Policy) (subject : Subject) :
    (r.install policy).policiesFor subject = (r.policiesFor subject).map (·.updated policy) := by
  have grants : (r.install policy).effectiveGrants subject = r.effectiveGrants subject := rfl
  unfold Registry.policiesFor
  rw [grants, List.map_flatMap]
  apply List.flatMap_congr
  intro grant mem
  exact intact.expand_install policy (intact.leads_of_mem_effectiveGrants mem)

/-- What a subject has is what is installed. -/
theorem Intact.policy?_of_mem (intact : r.Intact) {subject : Subject} {i : PolicyInstance}
    (mem : i ∈ r.policiesFor subject) : r.policy? i.policy.name = some i.policy := by
  have found : ∃ name, r.policy? name = some i.policy := by
    obtain ⟨grant, -, contributed⟩ := List.mem_flatMap.mp mem
    obtain ⟨names, prebound, role, part⟩ : ∃ names prebound role,
        i ∈ r.instancesOf names prebound role := by
      unfold expand at contributed
      split at contributed
      · exact ⟨_, _, _, contributed⟩
      · split at contributed
        · cases contributed
        · exact ⟨_, _, _, contributed⟩
    obtain ⟨name, -, is⟩ := List.mem_filterMap.mp part
    obtain ⟨policy, installed, rfl⟩ := Option.map_eq_some_iff.mp is
    exact ⟨name, installed⟩
  obtain ⟨name, installed⟩ := found
  rw [intact.policyNames name i.policy installed]
  exact installed

/-- **A policy of a new name is in nobody's list.** -/
theorem Intact.policiesFor_install_of_new (intact : r.Intact) {policy : Policy}
    (new : r.policy? policy.name = none) (subject : Subject) :
    (r.install policy).policiesFor subject = r.policiesFor subject := by
  rw [intact.policiesFor_install]
  refine (List.map_congr_left fun i mem => ?_).trans (List.map_id _)
  refine if_neg fun same => ?_
  have installed := intact.policy?_of_mem mem
  rw [same, new] at installed
  cases installed

/-! ## Defining a role -/

theorem role?_defineRole {s : Registry} {role : Role} (h : r.defineRole role = .ok s)
    (name : String) : s.role? name = if role.name = name then some role else r.role? name := by
  obtain ⟨-, rfl⟩ := defineRole_cases h
  exact r.roles.get?_insert role.name role name

/-- **A grant of the role contributes what the new role has**, and any other grant what it
did. -/
theorem expand_defineRole {s : Registry} {role : Role} (h : r.defineRole role = .ok s)
    (grant : Grant) :
    s.expand grant =
      if grant.isOf .role role.name then
        r.instancesOf role.policies grant.prebound (some role.name)
      else r.expand grant := by
  have looked := role?_defineRole h grant.name
  obtain ⟨-, rfl⟩ := defineRole_cases h
  unfold expand
  cases kind : grant.kind with
  | policy =>
    have other : ¬ grant.isOf .role role.name = true := by
      rw [Grant.isOf_iff, kind]
      rintro ⟨eq, -⟩
      cases eq
    rw [if_neg other]
    rfl
  | role =>
    dsimp only
    rw [looked]
    by_cases same : role.name = grant.name
    · rw [if_pos same, if_pos (Grant.isOf_iff.mpr ⟨kind, same.symm⟩)]
      rfl
    · rw [if_neg same, if_neg fun is => same (Grant.isOf_iff.mp is).2.symm]
      rfl

theorem policiesFor_defineRole {s : Registry} {role : Role} (h : r.defineRole role = .ok s)
    (subject : Subject) :
    s.policiesFor subject = (r.effectiveGrants subject).flatMap fun grant =>
      if grant.isOf .role role.name then
        r.instancesOf role.policies grant.prebound (some role.name)
      else r.expand grant := by
  have grants : s.effectiveGrants subject = r.effectiveGrants subject := by
    unfold effectiveGrants
    rw [grantsOf_defineRole h, grantsOf_defineRole h]
  unfold Registry.policiesFor
  rw [grants]
  exact congrArg (List.flatMap · _) (funext (expand_defineRole h))

/-- **A role of a new name is in nobody's list.** -/
theorem Intact.policiesFor_defineRole_of_new (intact : r.Intact) {s : Registry} {role : Role}
    (h : r.defineRole role = .ok s) (new : r.role? role.name = none) (subject : Subject) :
    s.policiesFor subject = r.policiesFor subject := by
  rw [policiesFor_defineRole h]
  apply List.flatMap_congr
  intro grant mem
  refine if_neg fun is => ?_
  have leads : r.Leads grant := intact.leads_of_mem_effectiveGrants mem
  obtain ⟨kind, name⟩ := Grant.isOf_iff.mp is
  unfold Leads at leads
  rw [kind, name] at leads
  dsimp only at leads
  rw [new] at leads
  cases leads

end Registry

namespace Authorizer

/-- **What is replaced is replaced in place.**  Take any run of an authorizer that starts with an
empty registry, with a memo of any size or without one, and then install a policy or define a
role.

* The name of the policy leads to it afterwards, and every other name leads where it did.  Every
  list of policies is the one before with the policy in place of each one of its name; order,
  variables and roles are the same.
* If the role can be defined, its name leads to it afterwards, and every other name leads where
  it did.  Each list is put together grant by grant as the one before, and differs in the grants
  of this role alone: they contribute the policies of the new role in its order, with their own
  variables.
* A policy or a role of a name that nothing has had changes no list. -/
theorem replaced_in_place (size : Option (Nat × Nat)) (audit : AuditSettings)
    (log : Option DecisionLog) (operations : List Operation) :
    let a : Authorizer := ⟨.empty (Directory.unusedMemo size), audit, log⟩
    let b := (a.run operations).2
    let r := b.directory.registry
    (∀ policy name, (b.step (.install policy)).next.directory.registry.policy? name =
      if policy.name = name then some policy else r.policy? name) ∧
    (∀ policy subject,
      let before := (b.directory.policiesFor subject).1
      let after := ((b.step (.install policy)).next.directory.policiesFor subject).1
      after = before.map (·.updated policy) ∧
        (r.policy? policy.name = none → after = before)) ∧
    ∀ role subject,
      let grants := r.grantsOf .default ++ if subject = .default then [] else r.grantsOf subject
      let before := (b.directory.policiesFor subject).1
      let after := ((b.step (.defineRole role)).next.directory.policiesFor subject).1
      (b.step (.defineRole role)).answer = .defined (.ok ()) →
        (∀ name, (b.step (.defineRole role)).next.directory.registry.role? name =
          if role.name = name then some role else r.role? name) ∧
        (∃ (contribution : Grant → List PolicyInstance) (policies : List Policy),
          (∀ grant ∈ grants, r.Contributes grant (contribution grant)) ∧
          before = grants.flatMap contribution ∧
          List.Forall₂ (fun name policy => r.policy? name = some policy) role.policies policies ∧
          after = grants.flatMap fun grant =>
            if grant.isOf .role role.name then
              policies.map fun policy => ⟨policy, grant.prebound, some role.name⟩
            else contribution grant) ∧
        (r.role? role.name = none → after = before) := by
  intro a b r
  have intact : r.Intact := intact_run _ audit log operations
  have fresh : b.directory.Fresh := fresh_run (Directory.fresh_unusedMemo .empty size) operations
  have resolved : ∀ subject, (b.directory.policiesFor subject).1 = r.policiesFor subject :=
    fun subject => (Directory.policiesFor_of_fresh fresh subject).1
  refine ⟨fun policy name => ?_, fun policy subject => ?_, fun role subject => ?_⟩
  · rw [registry_step]
    exact r.policy?_install policy name
  · have after := policiesFor_next fresh (.install policy) subject
    dsimp only
    rw [resolved, after]
    exact ⟨intact.policiesFor_install policy subject,
      fun new => intact.policiesFor_install_of_new new subject⟩
  · intro grants before after answered
    have effective : r.effectiveGrants subject = grants := by cases subject <;> rfl
    rw [answer_defineRole] at answered
    cases defined : r.defineRole role with
    | error fault =>
      rw [defined] at answered
      cases answered
    | ok s =>
      obtain ⟨policies, installed⟩ :=
        Registry.exists_installed (Registry.defineRole_cases defined).1
      have next : after = s.policiesFor subject := by
        refine (policiesFor_next fresh (.defineRole role) subject).trans ?_
        unfold Operation.effect
        dsimp only
        rw [defined]
      have contributes : ∀ grant ∈ grants, r.Contributes grant (r.expand grant) :=
        fun grant mem =>
          intact.contributes (intact.leads_of_mem_effectiveGrants (effective ▸ mem))
      refine ⟨fun name => ?_, ⟨r.expand, policies, contributes, ?_, installed, ?_⟩, fun new => ?_⟩
      · rw [registry_step]
        unfold Operation.effect
        dsimp only
        rw [defined]
        exact Registry.role?_defineRole defined name
      · rw [← effective]
        exact resolved subject
      · rw [next, Registry.policiesFor_defineRole defined, effective]
        simp only [Registry.instancesOf_eq_map installed]
      · rw [next, intact.policiesFor_defineRole_of_new defined new]
        exact (resolved subject).symm

/-- Somebody has a policy twice, by a grant and through a role.  Another one is installed under
its name, and stands in both places. -/
theorem policy_is_replaced_in_both_places :
    let rule (effect : Effect) : Clause := ⟨effect, [⟨[.any], by simp⟩], [⟨[.any], false, by simp⟩]⟩
    let old : Policy := ⟨"reader", [rule .allow], by decide, by decide⟩
    let new : Policy := ⟨"reader", [rule .deny], by decide, by decide⟩
    let a : Authorizer := ⟨.empty (Directory.unusedMemo (some (1, 1))), .standard, none⟩
    let b := (a.run
      [.install old, .defineRole ⟨"editor", ["reader"]⟩,
        .grant (.user "ann") ⟨.policy, "reader", .empty⟩,
        .grant (.user "ann") ⟨.role, "editor", .empty⟩]).2
    let next := (b.step (.install new)).next.directory
    (b.directory.policiesFor (.user "ann")).1 =
        [⟨old, .empty, none⟩, ⟨old, .empty, some "editor"⟩] ∧
      (next.policiesFor (.user "ann")).1 = [⟨new, .empty, none⟩, ⟨new, .empty, some "editor"⟩] ∧
      next.registry.policy? "reader" = some new := by
  intro rule old new a b next
  obtain ⟨named, lists, -⟩ := replaced_in_place (some (1, 1)) .standard none
    [.install old, .defineRole ⟨"editor", ["reader"]⟩,
      .grant (.user "ann") ⟨.policy, "reader", .empty⟩,
      .grant (.user "ann") ⟨.role, "editor", .empty⟩]
  have before : (b.directory.policiesFor (.user "ann")).1 =
      [⟨old, .empty, none⟩, ⟨old, .empty, some "editor"⟩] := by decide +kernel
  have after := (lists new (.user "ann")).1
  refine ⟨before, after.trans ?_, named new "reader"⟩
  rw [before]
  decide +kernel

end Authorizer

end Gatehouse
