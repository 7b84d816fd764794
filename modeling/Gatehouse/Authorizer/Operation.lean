import Gatehouse.Authorizer.Basic
import Gatehouse.Entity.Kind

/-!
# Runs of an authorizer

Everything that can be asked of an authorizer, as data: an operation leads from one
authorizer to the next and gives an answer on the way, together with what has been
observed.  A run is a list of operations.

Operations that fail leave the authorizer as it is.
-/

namespace Gatehouse.Authorizer

/-- Something to do with an authorizer. -/
inductive Operation where
  | install (policy : Policy)
  | defineRole (role : Role)
  | grant (subject : Subject) (grant : Grant)
  | revoke (subject : Subject) (kind : GrantKind) (name : String)
  | grantsOf (subject : Subject)
  | policiesFor (subject : Subject)
  /-- Ask for the whole verdict. -/
  | authorize (subject : Subject) (action path : String)
  /-- Ask for a permission. -/
  | isAllowed (subject : Subject) (action path : String)
  /-- Go on only with a permission. -/
  | require (subject : Subject) (action path : String)
  /-- Ask for the verdict on a verb and an entity. -/
  | authorizeEntity (subject : Subject) (kind : EntityKind) (verb : String)
    (fields : String → Option String)
  /-- Keep the paths that are permitted. -/
  | filterAllowed (subject : Subject) (action : String) (paths : List String)
  /-- Take what waits in the log. -/
  | drain
  /-- The collector of the log goes. -/
  | close

/-- What comes back. -/
inductive Answer where
  | done
  | defined (result : Except RegistryFault Unit)
  /-- Whether something has changed. -/
  | changed (result : Except RegistryFault Bool)
  | grants (grants : List Grant)
  | policies (instances : List PolicyInstance)
  | verdict (result : Except EntityFault Verdict)
  | permission (isAllowed : Bool) (bindings : Bindings)
  | access (result : Except AccessDenied Bindings)
  | kept (paths : List (String × Bindings))
  | drained (observations : List Observation)

/-- An answer, the observations made for it, and the authorizer afterwards. -/
structure Outcome where
  answer : Answer
  observations : List Observation
  next : Authorizer

/-- The outcome of an operation in which nothing is decided. -/
def quietly (answer : Answer) (next : Authorizer) : Outcome := ⟨answer, [], next⟩

/-- The outcome of an operation in which one request is decided. -/
def deciding (a : Authorizer) (subject : Subject) (action path : String)
    (answer : Observation → Answer) : Outcome :=
  let (observation, next) := a.decide subject action path
  ⟨answer observation, [observation], next⟩

/-- Carry out an operation. -/
def step (a : Authorizer) : Operation → Outcome
  | .install policy => quietly .done { a with directory := a.directory.install policy }
  | .defineRole role =>
    match a.directory.defineRole role with
    | .error fault => quietly (.defined (.error fault)) a
    | .ok directory => quietly (.defined (.ok ())) { a with directory }
  | .grant subject grant =>
    match a.directory.grant subject grant with
    | .error fault => quietly (.changed (.error fault)) a
    | .ok (changed, directory) => quietly (.changed (.ok changed)) { a with directory }
  | .revoke subject kind name =>
    let (changed, directory) := a.directory.revoke subject kind name
    quietly (.changed (.ok changed)) { a with directory }
  | .grantsOf subject => quietly (.grants (a.directory.registry.grantsOf subject)) a
  | .policiesFor subject =>
    let (instances, directory) := a.directory.policiesFor subject
    quietly (.policies instances) { a with directory }
  | .authorize subject action path =>
    a.deciding subject action path fun o => .verdict (.ok o.verdict)
  | .isAllowed subject action path =>
    a.deciding subject action path fun o => .permission o.verdict.isAllowed o.verdict.bindings
  | .require subject action path => a.deciding subject action path fun o => .access o.access
  | .authorizeEntity subject kind verb fields =>
    match kind.request verb fields with
    | .error fault => quietly (.verdict (.error fault)) a
    | .ok (action, path) => a.deciding subject action path fun o => .verdict (.ok o.verdict)
  | .filterAllowed subject action paths =>
    let (observations, next) := a.decideAll subject action paths
    ⟨.kept (observations.filterMap (·.kept?)), observations, next⟩
  | .drain =>
    let (observations, next) := a.drain
    quietly (.drained observations) next
  | .close => quietly .done a.close

/-- Carry out operations in order. -/
def run (a : Authorizer) : List Operation → List Outcome × Authorizer
  | [] => ([], a)
  | operation :: operations =>
    let outcome := a.step operation
    let (outcomes, last) := outcome.next.run operations
    (outcome :: outcomes, last)

theorem run_cons (a : Authorizer) (operation : Operation) (operations : List Operation) :
    a.run (operation :: operations) =
      (a.step operation :: ((a.step operation).next.run operations).1,
        ((a.step operation).next.run operations).2) := rfl

end Gatehouse.Authorizer
