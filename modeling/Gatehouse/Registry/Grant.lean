import Gatehouse.Bindings
import Gatehouse.Json.Reader

/-!
# Roles and grants

A role is a name for a list of policies.  The order of the list matters as the order
of grants does, and a policy may stand in it more than once.

A grant gives a subject a policy, or a role and with it all policies of the role.  It
can fix the values of captures by its variables.

Grants are equal only if their variables are, so a subject may hold the same policy
several times with different variables.  They are taken away by name, all at once.
-/

namespace Gatehouse

open Json (Reader ReadError RecordShape Slot)

/-! ## Roles -/

/-- A role: a name for a list of policies. -/
structure Role where
  name : String
  policies : List String
  deriving DecidableEq, Repr

namespace Role

/-- A role that is being read. -/
structure Draft where
  name : Option String
  policies : Option (List String)

/-- Roles in documents: both fields have to be there, and no other. -/
def shape : RecordShape Draft Role where
  label := "struct Role"
  blank := ⟨none, none⟩
  slots := [
    .of "name" (·.name) (fun draft name => { draft with name := some name }) .text,
    .of "policies" (·.policies) (fun draft policies => { draft with policies := some policies })
      (.list .text)]
  isOpen := false
  finish draft :=
    match draft.name, draft.policies with
    | none, _ => .error "name"
    | _, none => .error "policies"
    | some name, some policies => .ok ⟨name, policies⟩

/-- Read the document of a role. -/
def ofJson (text : String) : Except ReadError Role := Reader.document shape.read text

end Role

/-! ## Grants -/

/-- What is granted. -/
inductive GrantKind where
  | policy
  | role
  deriving DecidableEq, Repr

/-- The word for a kind of grant. -/
def GrantKind.word : GrantKind → String
  | policy => "policy"
  | role => "role"

/-- A policy or a role, with variables. -/
structure Grant where
  kind : GrantKind
  name : String
  /-- The variables, which are bound before any path is matched. -/
  prebound : Bindings
  deriving DecidableEq

/-- The grant is one of this policy or role, whatever its variables are. -/
def Grant.isOf (grant : Grant) (kind : GrantKind) (name : String) : Bool :=
  grant.kind == kind && grant.name == name

theorem Grant.isOf_iff {grant : Grant} {kind : GrantKind} {name : String} :
    grant.isOf kind name = true ↔ grant.kind = kind ∧ grant.name = name := by
  simp [isOf]

end Gatehouse
