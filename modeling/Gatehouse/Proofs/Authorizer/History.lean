import Gatehouse.Authorizer.Operation
import Mathlib.Data.List.Induction

/-!
# The history of a run

An authorizer keeps no record of what it has been asked.  `history` does: it is the list of all
operations of a run with their outcomes.  What is said about the past of a run is read off this
list, and shown to hold along the run one operation at a time (`history_preserves`).
-/

namespace Gatehouse.Authorizer

/-- The operations of a run with their outcomes. -/
def history (a : Authorizer) (operations : List Operation) : List (Operation × Outcome) :=
  operations.zip (a.run operations).1

theorem history_cons (a : Authorizer) (operation : Operation) (operations : List Operation) :
    a.history (operation :: operations) =
      (operation, a.step operation) :: (a.step operation).next.history operations := rfl

theorem run_concat (a : Authorizer) (operations : List Operation) (operation : Operation) :
    (a.run (operations ++ [operation])).2 = ((a.run operations).2.step operation).next := by
  induction operations generalizing a with
  | nil => rfl
  | cons first operations ih => exact ih (a.step first).next

theorem history_concat (a : Authorizer) (operations : List Operation) (operation : Operation) :
    a.history (operations ++ [operation]) =
      a.history operations ++ [(operation, (a.run operations).2.step operation)] := by
  induction operations generalizing a with
  | nil => rfl
  | cons first operations ih => exact congrArg _ (ih (a.step first).next)

/-- A place in a history is a place in the run. -/
theorem exists_of_history {a : Authorizer} {operations : List Operation}
    {past later : List (Operation × Outcome)} {operation : Operation} {outcome : Outcome}
    (h : a.history operations = past ++ (operation, outcome) :: later) :
    ∃ before, past = a.history before ∧ outcome = (a.run before).2.step operation := by
  induction past generalizing a operations with
  | nil =>
    cases operations with
    | nil => cases h
    | cons first operations =>
      rw [history_cons] at h
      cases h
      exact ⟨[], rfl, rfl⟩
  | cons entry past ih =>
    cases operations with
    | nil => cases h
    | cons first operations =>
      rw [history_cons, List.cons_append] at h
      injection h with head tail
      obtain ⟨before, same, here⟩ := ih tail
      refine ⟨first :: before, ?_, here⟩
      rw [history_cons, head, same]

/-- **Facts about the past hold along runs**, if every operation carries them on. -/
theorem history_preserves {P : List (Operation × Outcome) → Authorizer → Prop}
    (keeps : ∀ (past : List (Operation × Outcome)) (a : Authorizer) (operation : Operation),
      P past a → P (past ++ [(operation, a.step operation)]) (a.step operation).next)
    {a : Authorizer} (initial : P [] a) (operations : List Operation) :
    P (a.history operations) (a.run operations).2 := by
  induction operations using List.reverseRecOn with
  | nil => exact initial
  | append_singleton operations operation ih =>
    rw [history_concat, run_concat]
    exact keeps _ _ operation ih

end Gatehouse.Authorizer
