import Gatehouse.Pattern.Action
import Gatehouse.Pattern.Object
import Gatehouse.Text

/-!
# Policies

A policy is a named list of clauses in the order of writing.  A clause allows or
denies some actions on some objects.  The order matters, since a later clause
overrides an earlier one.

Everything a decision relies on is checked when a policy is made, and the checks
are fields of the types: patterns are well formed, the name is not blank, and no
clause of a policy lacks an action or an object.  A decision therefore has no
error case.  A single clause may still be incomplete, because it is the policy
that can say which of its clauses is the first such one.
-/

namespace Gatehouse

/-- What a clause does with the actions and objects that it describes. -/
inductive Effect where
  | allow
  | deny
  deriving DecidableEq, Repr

/-- The word for an effect. -/
def Effect.word : Effect → String
  | allow => "allow"
  | deny => "deny"

/-- The kind of pattern that a clause lacks. -/
inductive MissingPatterns where
  | actions
  | objects
  deriving DecidableEq, Repr

/-- The wording of a lack. -/
def MissingPatterns.reason : MissingPatterns → String
  | actions => "no action patterns"
  | objects => "no object patterns"

/-- Why there is no policy. -/
inductive PolicyFault where
  /-- A pattern is malformed. -/
  | pattern (error : PatternError)
  /-- There is no name, or it is blank. -/
  | missingName
  /-- A clause lacks one kind of pattern. -/
  | incompleteClause (policy : String) (clause : Nat) (missing : MissingPatterns)
  deriving DecidableEq, Repr

/-- The wording of a fault. -/
def PolicyFault.message : PolicyFault → String
  | pattern error => error.message
  | missingName => "Policy name must not be empty"
  | incompleteClause policy clause missing =>
    "Policy '" ++ policy ++ "' clause " ++ toString clause ++ ": " ++ missing.reason

/-! ## Clauses -/

/-- An effect on the actions and objects that some pattern describes. -/
structure Clause where
  effect : Effect
  actions : List ActionPattern
  objects : List ObjectPattern
  deriving DecidableEq

/-- A clause as it is written: patterns are texts. -/
structure RawClause where
  effect : Effect
  actions : List String
  objects : List String
  deriving DecidableEq, Repr

namespace Clause

/-- Read the patterns of a clause, the actions before the objects; the first error
decides. -/
def read (raw : RawClause) : Except PatternError Clause := do
  let actions ← raw.actions.mapM ActionPattern.parse
  let objects ← raw.objects.mapM ObjectPattern.parse
  return ⟨raw.effect, actions, objects⟩

/-- The clause with its patterns spelled out. -/
def raw (clause : Clause) : RawClause :=
  ⟨clause.effect, clause.actions.map (·.text), clause.objects.map (·.text)⟩

/-- What the clause lacks, its actions first. -/
def missing? (clause : Clause) : Option MissingPatterns :=
  if clause.actions = [] then some .actions
  else if clause.objects = [] then some .objects
  else none

end Clause

/-! ## Policies -/

/-- The position of the first incomplete clause, counted from `start`, with what
it lacks. -/
def firstIncomplete? (start : Nat) : List Clause → Option (Nat × MissingPatterns)
  | [] => none
  | clause :: clauses =>
    match clause.missing? with
    | some missing => some (start, missing)
    | none => firstIncomplete? (start + 1) clauses

theorem complete_of_firstIncomplete?_eq_none {start : Nat} {clauses : List Clause}
    (h : firstIncomplete? start clauses = none) : ∀ c ∈ clauses, c.missing? = none := by
  induction clauses generalizing start with
  | nil => simp
  | cons clause clauses ih =>
    simp only [firstIncomplete?] at h
    split at h
    · cases h
    · rename_i hc
      intro c hmem
      rcases List.mem_cons.mp hmem with rfl | hmem
      · exact hc
      · exact ih h c hmem

/-- A named list of complete clauses. -/
structure Policy where
  name : String
  clauses : List Clause
  named : Text.isBlank name = false
  complete : ∀ c ∈ clauses, c.missing? = none
  deriving DecidableEq

namespace Policy

/-- Make a policy.  The name is looked at before the clauses, and the clauses are
looked at in order. -/
def make (name : String) (clauses : List Clause) : Except PolicyFault Policy :=
  if hn : Text.isBlank name = true then .error .missingName
  else
    match hc : firstIncomplete? 0 clauses with
    | some (index, missing) => .error (.incompleteClause name index missing)
    | none =>
      .ok ⟨name, clauses, by simpa using hn, complete_of_firstIncomplete?_eq_none hc⟩

/-- Make a policy of written clauses: all patterns are read before the name is
looked at. -/
def read (name : String) (raws : List RawClause) : Except PolicyFault Policy :=
  match raws.mapM Clause.read with
  | .error e => .error (.pattern e)
  | .ok clauses => make name clauses

end Policy

end Gatehouse
