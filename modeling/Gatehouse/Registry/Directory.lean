import Gatehouse.Memo
import Gatehouse.Registry.Basic

/-!
# Directories

A directory is a registry that may remember what it has resolved.  The memo is not
part of the answers: a directory with a memo and one without give the same list of
policies for a subject, and differ in how often it is put together.

For this every change of the registry is announced to the memo.  A grant concerns one
subject, unless it is one to the default subject, which concerns everybody; a policy
or a role may concern anybody.  Where nothing has changed nothing is announced.
-/

namespace Gatehouse

/-- The resolved policies of subjects. -/
abbrev ResolutionMemo := Memo Subject (List PolicyInstance)

/-- A registry that may remember what it has resolved. -/
structure Directory where
  registry : Registry
  memo : Option ResolutionMemo

namespace Directory

/-- The directory without content. -/
def empty (memo : Option ResolutionMemo) : Directory := ⟨.empty, memo⟩

/-- The directory remembers. -/
def remembers (d : Directory) : Bool := d.memo.isSome

/-- A summary on one line. -/
def summary (d : Directory) : String := d.registry.summary d.remembers

/-! ## Announcing changes -/

/-- The policies of anybody may have changed. -/
def forgetAll (memo : Option ResolutionMemo) : Option ResolutionMemo := memo.map (·.invalidateAll)

/-- The grants of a subject have changed. -/
def forget (memo : Option ResolutionMemo) (subject : Subject) : Option ResolutionMemo :=
  if subject.isDefault then forgetAll memo else memo.map (·.invalidate subject)

/-! ## Operations -/

/-- Install a policy. -/
def install (d : Directory) (policy : Policy) : Directory :=
  ⟨d.registry.install policy, forgetAll d.memo⟩

/-- Define a role. -/
def defineRole (d : Directory) (role : Role) : Except RegistryFault Directory :=
  match d.registry.defineRole role with
  | .error fault => .error fault
  | .ok registry => .ok ⟨registry, forgetAll d.memo⟩

/-- Put a registry in place whose grants to one subject may differ. -/
def regrant (d : Directory) (subject : Subject) (result : Bool × Registry) : Bool × Directory :=
  (result.1, ⟨result.2, if result.1 then forget d.memo subject else d.memo⟩)

/-- Grant something. -/
def grant (d : Directory) (subject : Subject) (grant : Grant) :
    Except RegistryFault (Bool × Directory) :=
  match d.registry.grant subject grant with
  | .error fault => .error fault
  | .ok result => .ok (d.regrant subject result)

/-- Take something away. -/
def revoke (d : Directory) (subject : Subject) (kind : GrantKind) (name : String) :
    Bool × Directory :=
  d.regrant subject (d.registry.revoke subject kind name)

/-- The policies that decide about a subject, remembered or put together and then
remembered. -/
def policiesFor (d : Directory) (subject : Subject) : List PolicyInstance × Directory :=
  match d.memo with
  | none => (d.registry.policiesFor subject, d)
  | some memo =>
    match memo.fetch subject with
    | (some found, used) => (found, { d with memo := some used })
    | (none, used) =>
      let resolved := d.registry.policiesFor subject
      (resolved, { d with memo := some (used.insert subject (used.mark subject) resolved) })

@[simp] theorem registry_policiesFor (d : Directory) (subject : Subject) :
    (d.policiesFor subject).2.registry = d.registry := by
  unfold policiesFor
  split
  · rfl
  · split <;> rfl

end Directory

end Gatehouse
