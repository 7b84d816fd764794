import Gatehouse.Ledger
import Gatehouse.Policy.Basic
import Gatehouse.Registry.Grant
import Gatehouse.Subject
import Gatehouse.Text.Quoted

/-!
# The registry

The registry knows the installed policies, the defined roles, and what has been
granted to whom.

*References.*  A role names policies and a grant names a policy or a role.  Each
operation looks its references up before it changes anything, and nothing is ever
uninstalled, so that references which have been good stay good.  A policy or a role
is replaced as a whole by installing or defining another one of the same name.

*Failures and refusals.*  An operation that fails gives a fault and no registry.  One
that finds nothing to do says so: `grant` and `revoke` return a registry together
with whether it differs.

*Resolution.*  What a subject may do is decided by a list of policies, the later of which
override the earlier ones.  The list begins with everything that is granted to the default
subject; the grants of the subject itself follow in the order of granting.  A role
contributes its policies in its own order, each with the variables of the grant.
For the default subject its own grants are already there and are not repeated.

References that lead nowhere contribute nothing, so that the list is defined for any
registry.  In one that has been built by its operations there are none.
-/

namespace Gatehouse

/-- Policies, roles and grants. -/
structure Registry where
  policies : NameMap Policy
  roles : NameMap Role
  /-- The grants of each subject in the order of granting; the subjects stand in the
  order of their first grant. -/
  grants : Ledger Subject (List Grant)

/-- Why the registry refuses to change. -/
inductive RegistryFault where
  | unknownPolicy (name : String)
  | unknownRole (name : String)
  /-- A role names a policy that is not installed. -/
  | unknownPolicyInRole (role policy : String)
  /-- A role has no name, or a blank one. -/
  | emptyRoleName
  deriving DecidableEq, Repr

/-- The wording of a fault. -/
def RegistryFault.message : RegistryFault → String
  | unknownPolicy name => "Unknown policy '" ++ name ++ "'"
  | unknownRole name => "Unknown role '" ++ name ++ "'"
  | unknownPolicyInRole role policy =>
    "Role '" ++ role ++ "' references unknown policy '" ++ policy ++ "'"
  | emptyRoleName => "Role name must not be empty"

namespace Registry

/-- The registry without content. -/
def empty : Registry := ⟨.empty, .empty, .empty⟩

/-! ## Looking up -/

/-- The installed policy of this name. -/
def policy? (r : Registry) (name : String) : Option Policy := r.policies.get? name

/-- The defined role of this name. -/
def role? (r : Registry) (name : String) : Option Role := r.roles.get? name

/-- The names of the installed policies in order. -/
def policyNames (r : Registry) : List String := r.policies.names

/-- What has been granted to a subject itself. -/
def grantsOf (r : Registry) (subject : Subject) : List Grant := (r.grants.get? subject).getD []

/-- A summary on one line. -/
def summary (r : Registry) (remembers : Bool) : String :=
  "PolicyRegistry \x7b policies: " ++ Text.quotedList r.policyNames ++
    ", roles: " ++ toString r.roles.size ++ ", subjects: " ++ toString r.grants.size ++
    ", cached: " ++ toString remembers ++ " \x7d"

/-! ## Policies and roles -/

/-- Install a policy, in place of another one of the same name. -/
def install (r : Registry) (policy : Policy) : Registry :=
  { r with policies := r.policies.insert policy.name policy }

/-- What is wrong with a role. -/
def roleFault? (r : Registry) (role : Role) : Option RegistryFault :=
  if Text.isBlank role.name then some .emptyRoleName
  else
    (role.policies.find? fun name => !r.policies.contains name).map
      (.unknownPolicyInRole role.name)

/-- Define a role, in place of another one of the same name. -/
def defineRole (r : Registry) (role : Role) : Except RegistryFault Registry :=
  match r.roleFault? role with
  | some fault => .error fault
  | none => .ok { r with roles := r.roles.insert role.name role }

/-! ## Grants -/

/-- What is wrong with a grant. -/
def grantFault? (r : Registry) (grant : Grant) : Option RegistryFault :=
  match grant.kind with
  | .policy => if r.policies.contains grant.name then none else some (.unknownPolicy grant.name)
  | .role => if r.roles.contains grant.name then none else some (.unknownRole grant.name)

/-- Grant something, unless the subject has it with the same variables already. -/
def grant (r : Registry) (subject : Subject) (grant : Grant) :
    Except RegistryFault (Bool × Registry) :=
  match r.grantFault? grant with
  | some fault => .error fault
  | none =>
    let held := r.grantsOf subject
    if grant ∈ held then .ok (false, r)
    else .ok (true, { r with grants := r.grants.set subject (held ++ [grant]) })

/-- Take a policy or a role from a subject, whatever the variables are. -/
def revoke (r : Registry) (subject : Subject) (kind : GrantKind) (name : String) :
    Bool × Registry :=
  let held := r.grantsOf subject
  if held.any (·.isOf kind name) then
    (true, { r with grants := r.grants.set subject (held.filter fun g => !g.isOf kind name) })
  else (false, r)

/-! ## What the operations do to grants -/

theorem grantsOf_set (r : Registry) (subject : Subject) (grants : List Grant) (other : Subject) :
    grantsOf { r with grants := r.grants.set subject grants } other =
      if subject = other then grants else r.grantsOf other := by
  simp only [grantsOf, Ledger.get?_set]
  split <;> rfl

theorem grantsOf_defineRole {r s : Registry} {role : Role} (h : r.defineRole role = .ok s)
    (subject : Subject) : s.grantsOf subject = r.grantsOf subject := by
  unfold defineRole at h
  split at h
  · cases h
  · cases h
    rfl

end Registry

/-! ## The policies of a subject -/

/-- A policy as one grant gives it. -/
structure PolicyInstance where
  policy : Policy
  prebound : Bindings
  /-- The role through which the policy is granted. -/
  role : Option String
  deriving DecidableEq

namespace Registry

/-- The instances of a list of policies, by name. -/
def instancesOf (r : Registry) (names : List String) (prebound : Bindings)
    (role : Option String) : List PolicyInstance :=
  names.filterMap fun name => (r.policy? name).map fun policy => ⟨policy, prebound, role⟩

/-- What one grant contributes. -/
def expand (r : Registry) (grant : Grant) : List PolicyInstance :=
  match grant.kind with
  | .policy => r.instancesOf [grant.name] grant.prebound none
  | .role =>
    match r.role? grant.name with
    | none => []
    | some role => r.instancesOf role.policies grant.prebound (some role.name)

/-- The grants that count for a subject. -/
def effectiveGrants (r : Registry) (subject : Subject) : List Grant :=
  r.grantsOf .default ++ if subject.isDefault then [] else r.grantsOf subject

/-- The policies that decide about a subject, the last one with the last word. -/
def policiesFor (r : Registry) (subject : Subject) : List PolicyInstance :=
  (r.effectiveGrants subject).flatMap r.expand

end Registry

end Gatehouse
