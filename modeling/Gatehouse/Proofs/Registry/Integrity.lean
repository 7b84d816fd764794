import Gatehouse.Proofs.Authorizer.Effect
import Mathlib.Data.List.Forall2

/-!
# References lead somewhere

Grants name policies and roles, and roles name policies.  Nothing in the types makes these
names lead anywhere: `Registry.policiesFor` leaves out what it cannot find.  In a registry
that has been built by its operations nothing is left out, for it is `Intact` at all times.

* Each operation looks its references up before it changes anything, and no operation takes a
  policy or a role away (`Extends`), so that references which have been good stay good.
* A grant is not added to a list that has it, and lists are otherwise only thinned out.

It follows what the list of policies of a subject is.  `Contributes` says what one grant
contributes without leaving anything out, and the list is put together of one contribution for
each grant, in order (`policies_are_contributions`).
-/

namespace Gatehouse

namespace Registry

/-- What the grant refers to is there: an installed policy, or a defined role. -/
def Leads (r : Registry) (grant : Grant) : Prop :=
  match grant.kind with
  | .policy => (r.policy? grant.name).isSome
  | .role => (r.role? grant.name).isSome

/-- **All references lead somewhere, and nothing is granted twice.** -/
structure Intact (r : Registry) : Prop where
  /-- A granted policy is installed, and a granted role is defined. -/
  grants : ∀ subject, ∀ grant ∈ r.grantsOf subject, r.Leads grant
  /-- The policies of a role are installed. -/
  roles : ∀ name role, r.role? name = some role →
    ∀ policy ∈ role.policies, (r.policy? policy).isSome
  /-- No subject has a grant twice. -/
  distinct : ∀ subject, (r.grantsOf subject).Nodup
  /-- Policies and roles stand under their own names. -/
  policyNames : ∀ name policy, r.policy? name = some policy → policy.name = name
  roleNames : ∀ name role, r.role? name = some role → role.name = name

theorem intact_empty : Intact empty where
  grants subject grant mem := absurd mem List.not_mem_nil
  roles name role defined := by cases defined
  distinct subject := List.nodup_nil
  policyNames name policy installed := by cases installed
  roleNames name role defined := by cases defined

/-! ## What is there stays there -/

/-- All policies and roles of one registry are in another one, perhaps replaced. -/
structure Extends (r s : Registry) : Prop where
  policies : ∀ name, (r.policy? name).isSome → (s.policy? name).isSome
  roles : ∀ name, (r.role? name).isSome → (s.role? name).isSome

theorem Extends.leads {r s : Registry} (more : Extends r s) {grant : Grant}
    (leads : r.Leads grant) : s.Leads grant := by
  unfold Leads at leads ⊢
  cases kind : grant.kind with
  | policy =>
    rw [kind] at leads
    exact more.policies _ leads
  | role =>
    rw [kind] at leads
    exact more.roles _ leads

theorem isSome_insert {α : Type u} (m : NameMap α) (name : String) (value : α) {other : String}
    (h : (m.get? other).isSome) : ((m.insert name value).get? other).isSome := by
  rw [NameMap.get?_insert]
  split
  · rfl
  · exact h

/-- What is found after an insertion is what has been inserted, or it was there before. -/
theorem found_of_insert {α : Type u} {m : NameMap α} {name other : String} {value found : α}
    (h : (m.insert name value).get? other = some found) :
    (name = other ∧ value = found) ∨ m.get? other = some found := by
  rw [NameMap.get?_insert] at h
  split at h
  · rename_i same
    exact Or.inl ⟨same, Option.some.inj h⟩
  · exact Or.inr h

theorem extends_install (r : Registry) (policy : Policy) : Extends r (r.install policy) where
  policies _ := isSome_insert r.policies policy.name policy
  roles _ := id

theorem extends_role (r : Registry) (role : Role) :
    Extends r { r with roles := r.roles.insert role.name role } where
  policies _ := id
  roles _ := isSome_insert r.roles role.name role

/-! ## The operations -/

/-- A role that is defined names installed policies only. -/
theorem defineRole_cases {r s : Registry} {role : Role} (h : r.defineRole role = .ok s) :
    (∀ policy ∈ role.policies, (r.policy? policy).isSome) ∧
      s = { r with roles := r.roles.insert role.name role } := by
  unfold Registry.defineRole roleFault? at h
  split at h
  · cases h
  · rename_i sound
    split at sound
    · cases sound
    · rw [Option.map_eq_none_iff, List.find?_eq_none] at sound
      refine ⟨fun policy mem => ?_, (Except.ok.inj h).symm⟩
      have there : r.policies.contains policy = true := by simpa using sound policy mem
      exact there

/-- Nothing is wrong with a grant that leads somewhere. -/
theorem grantFault?_eq_none_iff {r : Registry} {grant : Grant} :
    r.grantFault? grant = none ↔ r.Leads grant := by
  unfold grantFault? Leads
  cases grant.kind with
  | policy =>
    dsimp only
    split
    · exact iff_of_true rfl ‹_›
    · exact iff_of_false nofun ‹_›
  | role =>
    dsimp only
    split
    · exact iff_of_true rfl ‹_›
    · exact iff_of_false nofun ‹_›

/-- What is granted leads somewhere. -/
theorem leads_of_grant {r : Registry} {subject : Subject} {grant : Grant}
    {result : Bool × Registry} (h : r.grant subject grant = .ok result) : r.Leads grant := by
  rw [← grantFault?_eq_none_iff]
  unfold Registry.grant at h
  cases fault : r.grantFault? grant with
  | none => rfl
  | some found =>
    rw [fault] at h
    cases h

namespace Intact

variable {r : Registry}

theorem install (intact : r.Intact) (policy : Policy) : (r.install policy).Intact where
  grants subject grant mem := (r.extends_install policy).leads (intact.grants subject grant mem)
  roles name role defined name' mem :=
    (r.extends_install policy).policies name' (intact.roles name role defined name' mem)
  distinct := intact.distinct
  policyNames name found installed := by
    rcases found_of_insert installed with ⟨same, rfl⟩ | before
    · exact same
    · exact intact.policyNames name found before
  roleNames := intact.roleNames

theorem defineRole (intact : r.Intact) {role : Role} {s : Registry}
    (defined : r.defineRole role = .ok s) : s.Intact := by
  obtain ⟨sound, rfl⟩ := defineRole_cases defined
  exact {
    grants := fun subject grant mem =>
      (r.extends_role role).leads (intact.grants subject grant mem)
    roles := fun name found looked policy mem => by
      rcases found_of_insert looked with ⟨-, rfl⟩ | before
      · exact sound policy mem
      · exact intact.roles name found before policy mem
    distinct := intact.distinct
    policyNames := intact.policyNames
    roleNames := fun name found looked => by
      rcases found_of_insert looked with ⟨same, rfl⟩ | before
      · exact same
      · exact intact.roleNames name found before }

/-- The grants of one subject are replaced by sound ones. -/
theorem set_grants (intact : r.Intact) (subject : Subject) {grants : List Grant}
    (lead : ∀ grant ∈ grants, r.Leads grant) (distinct : grants.Nodup) :
    Intact { r with grants := r.grants.set subject grants } where
  grants other grant mem := by
    rw [grantsOf_set] at mem
    split at mem
    · exact lead grant mem
    · exact intact.grants other grant mem
  roles := intact.roles
  distinct other := by
    rw [grantsOf_set]
    split
    · exact distinct
    · exact intact.distinct other
  policyNames := intact.policyNames
  roleNames := intact.roleNames

theorem grant (intact : r.Intact) {subject : Subject} {grant : Grant} {result : Bool × Registry}
    (granted : r.grant subject grant = .ok result) : result.2.Intact := by
  have leads : r.Leads grant := leads_of_grant granted
  rcases grant_cases granted with ⟨-, rfl⟩ | ⟨new, rfl⟩
  · exact intact
  · refine intact.set_grants subject (fun other mem => ?_) ?_
    · rcases List.mem_append.mp mem with held | last
      · exact intact.grants subject other held
      · rw [List.mem_singleton.mp last]
        exact leads
    · refine List.nodup_append.mpr ⟨intact.distinct subject, by simp, ?_⟩
      intro held mem last is same
      rw [List.mem_singleton.mp is] at same
      exact new (same ▸ mem)

theorem revoke (intact : r.Intact) (subject : Subject) (kind : GrantKind) (name : String) :
    (r.revoke subject kind name).2.Intact := by
  rcases r.revoke_cases subject kind name with ⟨-, same⟩ | ⟨-, thinned⟩
  · rw [same]
    exact intact
  · rw [thinned]
    exact intact.set_grants subject
      (fun grant mem => intact.grants subject grant (List.mem_filter.mp mem).1)
      ((intact.distinct subject).filter _)

/-- **What granting reports**: the grant was not there, or it was, or it leads nowhere. -/
theorem grant_report (intact : r.Intact) (subject : Subject) (grant : Grant) :
    let report := (r.grant subject grant).map (·.1)
    (report = .ok true ↔ r.Leads grant ∧ grant ∉ r.grantsOf subject) ∧
      (report = .ok false ↔ grant ∈ r.grantsOf subject) ∧
      ((∃ fault, report = .error fault) ↔ ¬ r.Leads grant) := by
  intro report
  cases granted : r.grant subject grant with
  | error fault =>
    have astray : ¬ r.Leads grant := by
      intro leads
      obtain ⟨result, succeeded⟩ := exists_grant (grantFault?_eq_none_iff.mpr leads) subject
      rw [granted] at succeeded
      cases succeeded
    have absent : grant ∉ r.grantsOf subject := fun mem => astray (intact.grants subject grant mem)
    simp [report, granted, Except.map, astray, absent]
  | ok result =>
    have leads : r.Leads grant := leads_of_grant granted
    rcases grant_cases granted with ⟨held, rfl⟩ | ⟨new, rfl⟩
    · simp [report, granted, Except.map, leads, held]
    · simp [report, granted, Except.map, leads, new]

/-- **Every operation keeps a registry intact.** -/
theorem effect (intact : r.Intact) (operation : Authorizer.Operation) :
    (operation.effect r).Intact := by
  cases operation with
  | install policy => exact intact.install policy
  | defineRole role =>
    unfold Authorizer.Operation.effect
    dsimp only
    cases defined : r.defineRole role with
    | error fault => exact intact
    | ok registry => exact intact.defineRole defined
  | grant subject granted =>
    unfold Authorizer.Operation.effect
    dsimp only
    cases result : r.grant subject granted with
    | error fault => exact intact
    | ok regranted => exact intact.grant result
  | revoke subject kind name => exact intact.revoke subject kind name
  | _ => exact intact

end Intact

/-! ## Contributions -/

/-- **What one grant contributes**, if everything that it refers to is there: the policy, or
all policies of the role in the order of the role, each with the variables of the grant and
the name of the role. -/
inductive Contributes (r : Registry) (grant : Grant) : List PolicyInstance → Prop where
  | policy {policy : Policy} (kind : grant.kind = .policy)
      (installed : r.policy? grant.name = some policy) :
      Contributes r grant [⟨policy, grant.prebound, none⟩]
  | role {role : Role} {policies : List Policy} (kind : grant.kind = .role)
      (defined : r.role? grant.name = some role)
      (installed : List.Forall₂ (fun name policy => r.policy? name = some policy)
        role.policies policies) :
      Contributes r grant (policies.map fun policy => ⟨policy, grant.prebound, some grant.name⟩)

/-- Where all names are those of installed policies each of them has one. -/
theorem exists_installed {r : Registry} {names : List String}
    (installed : ∀ name ∈ names, (r.policy? name).isSome) :
    ∃ policies, List.Forall₂ (fun name policy => r.policy? name = some policy) names policies := by
  induction names with
  | nil => exact ⟨[], .nil⟩
  | cons name names ih =>
    obtain ⟨policies, rest⟩ := ih fun other mem => installed other (List.mem_cons_of_mem _ mem)
    obtain ⟨policy, first⟩ := Option.isSome_iff_exists.mp (installed name List.mem_cons_self)
    exact ⟨policy :: policies, .cons first rest⟩

/-- No instance of an installed policy is left out. -/
theorem instancesOf_eq_map {r : Registry} {names : List String} {policies : List Policy}
    (installed : List.Forall₂ (fun name policy => r.policy? name = some policy) names policies)
    (prebound : Bindings) (role : Option String) :
    r.instancesOf names prebound role = policies.map fun policy => ⟨policy, prebound, role⟩ := by
  induction installed with
  | nil => rfl
  | cons first rest ih =>
    rw [List.map_cons, ← ih]
    unfold instancesOf
    rw [List.filterMap_cons, first]
    rfl

/-- **In an intact registry every grant contributes all that it has to.** -/
theorem Intact.contributes {r : Registry} (intact : r.Intact) {grant : Grant}
    (leads : r.Leads grant) : r.Contributes grant (r.expand grant) := by
  unfold Leads at leads
  unfold expand
  cases kind : grant.kind with
  | policy =>
    rw [kind] at leads
    obtain ⟨policy, installed⟩ := Option.isSome_iff_exists.mp leads
    have one : r.instancesOf [grant.name] grant.prebound none =
        [⟨policy, grant.prebound, none⟩] := by
      simp [instancesOf, installed]
    dsimp only
    rw [one]
    exact .policy kind installed
  | role =>
    rw [kind] at leads
    obtain ⟨role, defined⟩ := Option.isSome_iff_exists.mp leads
    obtain ⟨policies, installed⟩ := exists_installed (intact.roles grant.name role defined)
    dsimp only
    rw [defined]
    dsimp only
    rw [instancesOf_eq_map installed, intact.roleNames grant.name role defined]
    exact .role kind defined installed

/-- The grants that count for a subject lead somewhere. -/
theorem Intact.leads_of_mem_effectiveGrants {r : Registry} (intact : r.Intact) {subject : Subject}
    {grant : Grant} (mem : grant ∈ r.effectiveGrants subject) : r.Leads grant := by
  unfold effectiveGrants at mem
  rcases List.mem_append.mp mem with everybody | own
  · exact intact.grants _ grant everybody
  · cases isDefault : subject.isDefault with
    | true =>
      rw [isDefault] at own
      cases own
    | false =>
      rw [isDefault] at own
      exact intact.grants _ grant own

theorem Intact.policiesFor {r : Registry} (intact : r.Intact) (subject : Subject) :
    ∃ parts, List.Forall₂ r.Contributes (r.effectiveGrants subject) parts ∧
      r.policiesFor subject = parts.flatten := by
  refine ⟨(r.effectiveGrants subject).map r.expand, ?_, List.flatMap_def⟩
  rw [List.forall₂_map_right_iff, List.forall₂_same]
  intro grant mem
  exact intact.contributes (intact.leads_of_mem_effectiveGrants mem)

end Registry

/-- Whatever has been done, the registry is intact. -/
theorem Authorizer.intact_run (memo : Option ResolutionMemo) (audit : AuditSettings)
    (log : Option DecisionLog) (operations : List Operation) :
    ((⟨.empty memo, audit, log⟩ : Authorizer).run operations).2.directory.registry.Intact :=
  registry_run_preserves (fun _ operation intact => intact.effect operation)
    Registry.intact_empty operations

/-- **The policies of a subject are what its grants contribute.**  After any operations on an
authorizer that starts with an empty registry, with a memo or without one, the registry is
intact.  The policies that decide about a subject are the contributions of all grants of the
default subject, one after the other, and then those of all grants of the subject itself,
unless it is the default subject. -/
theorem Authorizer.policies_are_contributions (size : Option (Nat × Nat)) (audit : AuditSettings)
    (log : Option DecisionLog) (operations : List Operation) :
    let a : Authorizer := ⟨.empty (Directory.unusedMemo size), audit, log⟩
    let d := (a.run operations).2.directory
    let r := d.registry
    r.Intact ∧
      ∀ subject, ∃ parts,
        List.Forall₂ r.Contributes
          (r.grantsOf .default ++ if subject = .default then [] else r.grantsOf subject) parts ∧
        (d.policiesFor subject).1 = parts.flatten := by
  intro a d r
  have intact : r.Intact :=
    registry_run_preserves (fun _ operation intact => intact.effect operation)
      Registry.intact_empty operations
  have fresh : d.Fresh := fresh_run (Directory.fresh_unusedMemo .empty size) operations
  refine ⟨intact, fun subject => ?_⟩
  obtain ⟨parts, contributed, same⟩ := intact.policiesFor subject
  refine ⟨parts, ?_, (Directory.policiesFor_of_fresh fresh subject).1.trans same⟩
  cases subject <;> exact contributed

end Gatehouse
