import Gatehouse.Authorizer.Verdict
import Gatehouse.Registry.Directory
import Gatehouse.Settings

/-!
# The authorizer

The authorizer answers requests: may this subject perform this action on this object?
The verdict comes from the policies of the subject, which the directory knows.

Each verdict is observed once.  An observation goes to the decision log, if there is
one, and it may leave an audit event.  Which ones do is said by the audit settings,
separately for permissions and for all else.  Neither has any influence on verdicts.

All questions are asked through `decide`.  They differ in what they make of the
verdict.
-/

namespace Gatehouse

/-- A directory with those who watch the decisions. -/
structure Authorizer where
  directory : Directory
  audit : AuditSettings
  log : Option DecisionLog

/-- A request that has been refused. -/
structure AccessDenied where
  subject : Subject
  action : String
  path : String
  deriving DecidableEq, Repr

/-- The wording of a refusal. -/
def AccessDenied.message (e : AccessDenied) : String :=
  "Access denied: " ++ e.subject.text ++ " may not " ++ e.action ++ " on " ++ e.path

/-- The observation leaves an audit event. -/
def AuditSettings.covers (audit : AuditSettings) (observation : Observation) : Bool :=
  if observation.verdict.isAllowed then audit.logAllowed else audit.logDenied

/-- What one observation says to someone who requires the permission. -/
def Observation.access (o : Observation) : Except AccessDenied Bindings :=
  if o.verdict.isAllowed then .ok o.verdict.bindings
  else .error ⟨o.subject, o.action, o.path⟩

/-- The path of an observation with its bindings, if it is permitted. -/
def Observation.kept? (o : Observation) : Option (String × Bindings) :=
  if o.verdict.isAllowed then some (o.path, o.verdict.bindings) else none

namespace Authorizer

/-- An authorizer with the standard audit and no log. -/
def ofDirectory (directory : Directory) : Authorizer := ⟨directory, .standard, none⟩

/-- Decide about a request. -/
def decide (a : Authorizer) (subject : Subject) (action path : String) :
    Observation × Authorizer :=
  let (instances, directory) := a.directory.policiesFor subject
  let observation := ⟨subject, action, path, .ofInstances instances action path⟩
  (observation, { a with directory, log := a.log.map (·.offer observation) })

/-- Decide about several paths, one after the other. -/
def decideAll (a : Authorizer) (subject : Subject) (action : String) :
    List String → List Observation × Authorizer
  | [] => ([], a)
  | path :: paths =>
    let (observation, next) := a.decide subject action path
    let (observations, last) := next.decideAll subject action paths
    (observation :: observations, last)

theorem decideAll_cons (a : Authorizer) (subject : Subject) (action path : String)
    (paths : List String) :
    a.decideAll subject action (path :: paths) =
      ((a.decide subject action path).1 ::
          ((a.decide subject action path).2.decideAll subject action paths).1,
        ((a.decide subject action path).2.decideAll subject action paths).2) := rfl

/-- Take what waits in the log. -/
def drain (a : Authorizer) : List Observation × Authorizer :=
  match a.log with
  | none => ([], a)
  | some log => (log.drain.1, { a with log := some log.drain.2 })

/-- The collector of the log goes. -/
def close (a : Authorizer) : Authorizer := { a with log := a.log.map (·.close) }

/-- The audit events of some observations. -/
def audited (a : Authorizer) (observations : List Observation) : List Observation :=
  observations.filter a.audit.covers

end Authorizer

end Gatehouse
