import Gatehouse.Policy.Decision
import Gatehouse.Registry.Basic

/-!
# Verdicts

The verdict on a request is the last decisive evaluation among the policies of the
subject.  A policy that leaves the request open does not take back what an earlier
one has decided.  Where no policy decides the verdict is open, which is no permission.

A decision log hands observations of verdicts over to somebody who collects them at times.
It never holds up a decision: what finds the log full is dropped, and so is everything
once the collector is gone.
-/

namespace Gatehouse

/-- What has been decided about a request, and by which policy. -/
structure Verdict where
  decision : Decision
  bindings : Bindings
  policy : Option String
  deriving DecidableEq

namespace Verdict

/-- No policy has decided. -/
def undecided : Verdict := ⟨.indeterminate, .empty, none⟩

/-- The request is permitted. -/
def isAllowed (v : Verdict) : Bool := v.decision.isAllowed

/-- The verdict when one more policy has been asked. -/
def next (action path : String) (v : Verdict) (i : PolicyInstance) : Verdict :=
  let evaluation := i.policy.evaluate action path i.prebound
  if evaluation.decision.isDecisive then
    ⟨evaluation.decision, evaluation.bindings, some i.policy.name⟩
  else v

/-- The verdict of a list of policies. -/
def ofInstances (instances : List PolicyInstance) (action path : String) : Verdict :=
  instances.foldl (next action path) undecided

/-- The last policy is asked last. -/
theorem ofInstances_append_singleton (instances : List PolicyInstance) (i : PolicyInstance)
    (action path : String) :
    ofInstances (instances ++ [i]) action path =
      next action path (ofInstances instances action path) i := by
  simp [ofInstances, List.foldl_append]

end Verdict

/-- A request with the verdict on it. -/
structure Observation where
  subject : Subject
  action : String
  path : String
  verdict : Verdict
  deriving DecidableEq

/-! ## Decision logs -/

/-- Observations that wait for their collector. -/
structure DecisionLog where
  /-- So many observations can wait, and one at least. -/
  capacity : Nat
  /-- What waits, oldest first. -/
  waiting : List Observation
  /-- There still is a collector. -/
  isOpen : Bool
  deriving DecidableEq

namespace DecisionLog

/-- A log in which nothing waits. -/
def ofCapacity (capacity : Nat) : DecisionLog := ⟨capacity, [], true⟩

/-- The log takes one more observation. -/
def hasRoom (log : DecisionLog) : Bool :=
  log.isOpen && decide (log.waiting.length < max log.capacity 1)

/-- Put an observation into the log, if there is room. -/
def offer (log : DecisionLog) (observation : Observation) : DecisionLog :=
  if log.hasRoom then { log with waiting := log.waiting ++ [observation] } else log

/-- Take everything that waits. -/
def drain (log : DecisionLog) : List Observation × DecisionLog :=
  (log.waiting, { log with waiting := [] })

/-- The collector goes. -/
def close (log : DecisionLog) : DecisionLog := { log with waiting := [], isOpen := false }

end DecisionLog

end Gatehouse
