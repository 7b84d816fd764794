import Gatehouse.Registry.Basic

/-!
# Granting is local

Whoever grants something to a subject, or takes something away, touches the grants of this
subject and nothing else.  `SameExcept` is this frame condition, and `Regrants` says that an
operation keeps to it and reports truthfully whether anything has changed.

The list of policies of another subject does not change then, with one exception: the grants
of the default subject are part of everybody's list (`SameExcept.policiesFor`).  And where a
grant is another one in two registries, and all else is the same, what it contributes has the
same place in the list (`SameExcept.exchange`).
-/

namespace Gatehouse.Registry

/-! ## Inversion of the operations on grants -/

/-- What granting can do where it succeeds. -/
theorem grant_cases {r : Registry} {subject : Subject} {grant : Grant} {result : Bool × Registry}
    (h : r.grant subject grant = .ok result) :
    (grant ∈ r.grantsOf subject ∧ result = (false, r)) ∨
      (grant ∉ r.grantsOf subject ∧
        result = (true, { r with
          grants := r.grants.set subject (r.grantsOf subject ++ [grant]) })) := by
  unfold Registry.grant at h
  cases fault : r.grantFault? grant with
  | some fault' =>
    rw [fault] at h
    cases h
  | none =>
    rw [fault] at h
    by_cases held : grant ∈ r.grantsOf subject
    · rw [if_pos held] at h
      exact Or.inl ⟨held, (Except.ok.inj h).symm⟩
    · rw [if_neg held] at h
      exact Or.inr ⟨held, (Except.ok.inj h).symm⟩

/-- Granting succeeds where nothing is wrong with the grant. -/
theorem exists_grant {r : Registry} {grant : Grant} (sound : r.grantFault? grant = none)
    (subject : Subject) : ∃ result, r.grant subject grant = .ok result := by
  unfold Registry.grant
  rw [sound]
  by_cases held : grant ∈ r.grantsOf subject
  · exact ⟨_, if_pos held⟩
  · exact ⟨_, if_neg held⟩

/-- What taking away can do. -/
theorem revoke_cases (r : Registry) (subject : Subject) (kind : GrantKind) (name : String) :
    ((∀ grant ∈ r.grantsOf subject, grant.isOf kind name = false) ∧
        r.revoke subject kind name = (false, r)) ∨
      ((∃ grant ∈ r.grantsOf subject, grant.isOf kind name = true) ∧
        r.revoke subject kind name = (true, { r with
          grants := r.grants.set subject
            ((r.grantsOf subject).filter fun grant => !grant.isOf kind name) })) := by
  unfold revoke
  by_cases held : (r.grantsOf subject).any (·.isOf kind name) = true
  · exact Or.inr ⟨List.any_eq_true.mp held, if_pos held⟩
  · refine Or.inl ⟨fun grant mem => ?_, if_neg held⟩
    rw [Bool.eq_false_iff]
    exact fun is => held (List.any_eq_true.mpr ⟨grant, mem, is⟩)

/-- Taking away reports whether anything has gone. -/
theorem revoke_report (r : Registry) (subject : Subject) (kind : GrantKind) (name : String) :
    (r.revoke subject kind name).1 = true ↔
      ∃ grant ∈ r.grantsOf subject, grant ∉ (r.revoke subject kind name).2.grantsOf subject := by
  rcases r.revoke_cases subject kind name with ⟨-, eq⟩ | ⟨⟨grant, mem, is⟩, eq⟩
  · simp [eq]
  · rw [eq, grantsOf_set, if_pos rfl]
    refine ⟨fun _ => ⟨grant, mem, ?_⟩, fun _ => rfl⟩
    simp [is]

/-! ## The frame -/

/-- Two registries differ in the grants of one subject at most. -/
structure SameExcept (subject : Subject) (r s : Registry) : Prop where
  policies : s.policies = r.policies
  roles : s.roles = r.roles
  grants : ∀ other, other ≠ subject → s.grantsOf other = r.grantsOf other

theorem sameExcept_set (r : Registry) (subject : Subject) (grants : List Grant) :
    SameExcept subject r { r with grants := r.grants.set subject grants } where
  policies := rfl
  roles := rfl
  grants other ne := by rw [grantsOf_set, if_neg fun eq => ne eq.symm]

/-- The result of an operation on the grants of one subject: either the registry is as it
was and the result says so, or it differs in these grants. -/
def Regrants (r : Registry) (subject : Subject) (result : Bool × Registry) : Prop :=
  result = (false, r) ∨ (result.1 = true ∧ SameExcept subject r result.2)

theorem regrants_grant {r : Registry} {subject : Subject} {grant : Grant}
    {result : Bool × Registry} (h : r.grant subject grant = .ok result) :
    r.Regrants subject result := by
  rcases grant_cases h with ⟨-, rfl⟩ | ⟨-, rfl⟩
  · exact Or.inl rfl
  · exact Or.inr ⟨rfl, sameExcept_set r subject _⟩

theorem regrants_revoke (r : Registry) (subject : Subject) (kind : GrantKind) (name : String) :
    r.Regrants subject (r.revoke subject kind name) := by
  rcases r.revoke_cases subject kind name with ⟨-, eq⟩ | ⟨-, eq⟩
  · exact Or.inl eq
  · rw [eq]
    exact Or.inr ⟨rfl, sameExcept_set r subject _⟩

/-! ## Whose list of policies changes -/

/-- What a grant contributes does not depend on other grants. -/
theorem expand_congr {r s : Registry} (policies : s.policies = r.policies)
    (roles : s.roles = r.roles) : s.expand = r.expand := by
  funext grant
  unfold Registry.expand instancesOf policy? role?
  rw [policies, roles]

theorem SameExcept.grantsOf_default {subject : Subject} {r s : Registry}
    (h : SameExcept subject r s) (own : subject.isDefault = false) :
    s.grantsOf .default = r.grantsOf .default := by
  apply h.grants
  rintro rfl
  cases own

/-- **The policies of the others stay as they are**, unless the grants are those of the
default subject. -/
theorem SameExcept.policiesFor {subject : Subject} {r s : Registry} (h : SameExcept subject r s)
    (own : subject.isDefault = false) {other : Subject} (ne : other ≠ subject) :
    s.policiesFor other = r.policiesFor other := by
  have effective : s.effectiveGrants other = r.effectiveGrants other := by
    unfold effectiveGrants
    rw [h.grantsOf_default own, h.grants other ne]
  unfold Registry.policiesFor
  rw [effective, expand_congr h.policies h.roles]

/-- **A grant is exchanged in its place.**  If one grant of a subject is another one in `s`, then
the policies of an asker are the same, or what the one contributes stands where the other's
contribution has been. -/
theorem SameExcept.exchange {subject : Subject} {r s : Registry} (h : SameExcept subject r s)
    {earlier later : List Grant} {old new : Grant}
    (before : r.grantsOf subject = earlier ++ old :: later)
    (after : s.grantsOf subject = earlier ++ new :: later) (asker : Subject) :
    s.policiesFor asker = r.policiesFor asker ∨
      ∃ front back, r.policiesFor asker = front ++ (r.expand old ++ back) ∧
        s.policiesFor asker = front ++ (r.expand new ++ back) := by
  have expand : s.expand = r.expand := expand_congr h.policies h.roles
  cases own : subject.isDefault with
  | true =>
    -- The grant counts for everybody, and the grants of the asker come behind it.
    obtain rfl : subject = .default := Subject.isDefault_iff.mp own
    have others : (if asker.isDefault then [] else s.grantsOf asker) =
        if asker.isDefault then [] else r.grantsOf asker := by
      split
      · rfl
      · rename_i other
        exact h.grants asker fun same => other (same ▸ rfl)
    refine Or.inr ⟨earlier.flatMap r.expand,
      later.flatMap r.expand ++
        (if asker.isDefault then [] else r.grantsOf asker).flatMap r.expand, ?_, ?_⟩
    · simp [Registry.policiesFor, effectiveGrants, before]
    · simp [Registry.policiesFor, effectiveGrants, after, others, expand]
  | false =>
    by_cases same : asker = subject
    · subst same
      refine Or.inr ⟨(r.grantsOf .default ++ earlier).flatMap r.expand, later.flatMap r.expand,
        ?_, ?_⟩
      · simp [Registry.policiesFor, effectiveGrants, before, own]
      · simp [Registry.policiesFor, effectiveGrants, after, own, expand, h.grantsOf_default own]
    · exact Or.inl (h.policiesFor own same)

end Gatehouse.Registry
