import Gatehouse.Authorizer.Basic
import Gatehouse.Policy.Document

/-!
# Startup

An authorizer is built from settings and from the policy files that they name.  It is
all or nothing, and the first problem decides:

1. the policies are loaded, in the order of `policyPaths`;
2. the roles are defined, in the order of the settings;
3. the grants are made, assignment by assignment, the policies of an assignment before
   its roles.

Since a policy or a role replaces another one of the same name, later files win over
earlier ones, and a role can name any policy that has been loaded.
-/

namespace Gatehouse

/-- Why nothing is built. -/
inductive StartupError where
  /-- The folder with policies cannot be read. -/
  | folder (path : String) (fault : FileFault)
  | policy (error : PolicyFileError)
  | registry (fault : RegistryFault)

/-- The wording of an error. -/
def StartupError.message : StartupError → String
  | folder path fault => "Failed to read policy directory " ++ path ++ ": " ++ fault.message
  | policy error => error.message
  | registry fault => fault.message

/-- The grants of an assignment, in order. -/
def Assignment.grants (a : Assignment) : List Grant :=
  a.policies.map (⟨.policy, ·, a.prebound⟩) ++ a.roles.map (⟨.role, ·, a.prebound⟩)

namespace Startup

/-- The extension of policy files in a folder. -/
def policyExtension : String := "json"

/-- The paths of the policy files in a folder, ordered by name. -/
def pathsInFolder (files : Files) (folder : String) : Except StartupError (List String) :=
  match files.names folder with
  | .error fault => .error (.folder folder fault)
  | .ok names =>
    let wanted := names.filter fun name => FilePath.extension? name == some policyExtension
    .ok ((wanted.mergeSort fun a b => decide (a ≤ b)).map (FilePath.inFolder folder))

/-- The paths of all policy files in the order of loading: those that are listed come
before those in the folder. -/
def policyPaths (files : Files) (s : AuthorizationSettings) : Except StartupError (List String) :=
  match s.policyDir with
  | none => .ok s.policyFiles
  | some folder => (pathsInFolder files folder).map (s.policyFiles ++ ·)

/-- Load a policy and install it. -/
def loadPolicy (files : Files) (d : Directory) (path : String) : Except StartupError Directory :=
  match Policy.load files path with
  | .error e => .error (.policy e)
  | .ok policy => .ok (d.install policy)

/-- Define a role. -/
def defineRole (d : Directory) (role : Role) : Except StartupError Directory :=
  (d.defineRole role).mapError .registry

/-- Make one grant to a subject, who may have it already. -/
def makeGrant (subject : Subject) (d : Directory) (grant : Grant) :
    Except StartupError Directory :=
  match d.grant subject grant with
  | .error fault => .error (.registry fault)
  | .ok (_, next) => .ok next

/-- Make the grants of an assignment. -/
def assign (d : Directory) (a : Assignment) : Except StartupError Directory :=
  a.grants.foldlM (makeGrant (.ofText a.subject)) d

/-- The memo that the settings ask for. -/
def memo (s : AuthorizationSettings) : Option ResolutionMemo :=
  if s.remembers then some (.ofCapacity s.maxSubjects) else none

/-- Build the directory. -/
def directory (files : Files) (s : AuthorizationSettings) : Except StartupError Directory := do
  let paths ← policyPaths files s
  let loaded ← paths.foldlM (loadPolicy files) (.empty (memo s))
  let defined ← s.roles.foldlM defineRole loaded
  s.assignments.foldlM assign defined

/-- Build the authorizer. -/
def authorizer (files : Files) (s : AuthorizationSettings) : Except StartupError Authorizer :=
  (directory files s).map fun d => ⟨d, s.audit, none⟩

end Startup

end Gatehouse
