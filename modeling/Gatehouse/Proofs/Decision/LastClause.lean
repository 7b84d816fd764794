import Gatehouse.Authorizer.Operation
import Mathlib.Data.List.Induction

/-!
# The last clause decides

A verdict is found by two scans, one inside the other: through the policies of the
subject and, for each policy, through its clauses.  Either scan keeps the latest result,
and a policy in which no clause applies leaves what the policies before it have decided.

The two scans are one.  `grantedClauses` lays all clauses of all policies out in a row,
each with the instance that it stands in, and the verdict is the one of the last clause in
this row that applies to the request (`ofInstances_eq_lastRuling`).

*What is load-bearing.*  A policy with no clause that applies is the same, for the row, as
a policy with no clauses at all.  This is why a result is turned into an `Option` on both
levels (`Evaluation.ruling?`, `GrantedClause.ruling?`): "nothing applied" is `none`, and
`Option.or` is the override.
-/

namespace Gatehouse

/-- A clause with the policy instance that it stands in. -/
structure GrantedClause where
  source : PolicyInstance
  clause : Clause

namespace GrantedClause

/-- **The clause applies to a request with these bindings**: one of its action patterns
admits the action, and its object patterns describe the path under the variables of the
grant. -/
def AppliesWith (g : GrantedClause) (action path : String) (bindings : Bindings) : Prop :=
  (∃ pattern ∈ g.clause.actions, pattern.admits action = true) ∧
    g.clause.objectBindings? path g.source.prebound = some bindings

/-- The verdict of the clause where it applies with these bindings. -/
def verdict (g : GrantedClause) (bindings : Bindings) : Verdict :=
  ⟨.ofEffect g.clause.effect, bindings, some g.source.policy.name⟩

/-- The verdict of the clause, if it applies at all. -/
def ruling? (action path : String) (g : GrantedClause) : Option Verdict :=
  (g.clause.applies? action path g.source.prebound).map g.verdict

theorem applies?_eq_some_iff {g : GrantedClause} {action path : String} {bindings : Bindings} :
    g.clause.applies? action path g.source.prebound = some bindings ↔
      g.AppliesWith action path bindings := by
  unfold Clause.applies? Clause.admitsAction AppliesWith
  rw [← List.any_eq_true]
  cases g.clause.actions.any fun pattern => pattern.admits action <;> simp

theorem ruling?_of_appliesWith {g : GrantedClause} {action path : String} {bindings : Bindings}
    (h : g.AppliesWith action path bindings) :
    g.ruling? action path = some (g.verdict bindings) := by
  rw [ruling?, applies?_eq_some_iff.mpr h, Option.map_some]

theorem ruling?_eq_none_iff {g : GrantedClause} {action path : String} :
    g.ruling? action path = none ↔ ∀ bindings, ¬ g.AppliesWith action path bindings := by
  rw [ruling?, Option.map_eq_none_iff, Option.eq_none_iff_forall_ne_some]
  exact forall_congr' fun bindings => not_congr applies?_eq_some_iff

end GrantedClause

/-- The clauses of an instance in the order of writing. -/
def PolicyInstance.granted (i : PolicyInstance) : List GrantedClause :=
  i.policy.clauses.map fun clause => ⟨i, clause⟩

/-- All clauses of all instances in a row. -/
def grantedClauses (instances : List PolicyInstance) : List GrantedClause :=
  instances.flatMap (·.granted)

/-- **A clause decides a request**: it applies with these bindings, and no clause after it
in the row applies at all. -/
def Decides (clauses : List GrantedClause) (action path : String) (g : GrantedClause)
    (bindings : Bindings) : Prop :=
  g.AppliesWith action path bindings ∧
    ∃ before after, clauses = before ++ g :: after ∧
      ∀ later ∈ after, ∀ others, ¬ later.AppliesWith action path others

/-- Some clause of a row decides, or none applies. -/
theorem exists_decides_or_none (clauses : List GrantedClause) (action path : String) :
    (∃ g bindings, Decides clauses action path g bindings) ∨
      ∀ g ∈ clauses, ∀ bindings, ¬ g.AppliesWith action path bindings := by
  induction clauses with
  | nil => exact Or.inr fun g mem => absurd mem List.not_mem_nil
  | cons first rest ih =>
    -- The rest is asked first, since a clause behind this one overrides it.
    rcases ih with ⟨g, bindings, applies, before, after, split, idle⟩ | idle
    · exact Or.inl ⟨g, bindings, applies, first :: before, after, by rw [split]; rfl, idle⟩
    · by_cases applies : ∃ bindings, first.AppliesWith action path bindings
      · obtain ⟨bindings, applies⟩ := applies
        exact Or.inl ⟨first, bindings, applies, [], rest, rfl, idle⟩
      · refine Or.inr fun g mem => ?_
        rcases List.mem_cons.mp mem with rfl | mem
        · exact fun bindings h => applies ⟨bindings, h⟩
        · exact idle g mem

/-! ## The scan of one policy -/

/-- What an evaluation contributes to a verdict. -/
def Evaluation.ruling? (e : Evaluation) (name : String) : Option Verdict :=
  if e.decision.isDecisive then some ⟨e.decision, e.bindings, some name⟩ else .none

@[simp] theorem Evaluation.ruling?_none (name : String) : Evaluation.none.ruling? name = .none :=
  rfl

theorem Evaluation.ruling?_ofClause (i : PolicyInstance) (index : Nat) (clause : Clause)
    (bindings : Bindings) :
    (Evaluation.ofClause index clause bindings).ruling? i.policy.name =
      some (GrantedClause.verdict ⟨i, clause⟩ bindings) := by
  unfold Evaluation.ruling? Evaluation.ofClause
  rw [if_pos (Decision.isDecisive_ofEffect clause.effect)]
  rfl

/-- **The scan of one policy keeps the last ruling**, and the earlier result where there
is none. -/
theorem ruling?_scan (i : PolicyInstance) (action path : String) (clauses : List Clause) :
    ∀ (start : Nat) (result : Evaluation),
      (Policy.scan action path i.prebound start result clauses).ruling? i.policy.name =
        ((clauses.filterMap fun clause =>
          GrantedClause.ruling? action path ⟨i, clause⟩).getLast?).or
            (result.ruling? i.policy.name) := by
  induction clauses with
  | nil => intro start result; simp
  | cons clause clauses ih =>
    intro start result
    rw [Policy.scan_cons, ih, List.filterMap_cons]
    cases h : clause.applies? action path i.prebound with
    | none => simp [GrantedClause.ruling?, h]
    | some bindings =>
      -- The scan goes on with the result of this clause in place of the earlier one.
      have first : GrantedClause.ruling? action path ⟨i, clause⟩ =
          some (GrantedClause.verdict ⟨i, clause⟩ bindings) := by
        simp [GrantedClause.ruling?, h]
      rw [first, Evaluation.ruling?_ofClause, List.getLast?_cons]
      cases (clauses.filterMap fun clause =>
        GrantedClause.ruling? action path ⟨i, clause⟩).getLast? <;> rfl

/-- What a policy contributes is the ruling of its last clause that applies. -/
theorem ruling?_evaluate (i : PolicyInstance) (action path : String) :
    (i.policy.evaluate action path i.prebound).ruling? i.policy.name =
      (i.granted.filterMap (GrantedClause.ruling? action path)).getLast? := by
  rw [Policy.evaluate, ruling?_scan, Evaluation.ruling?_none, Option.or_none,
    PolicyInstance.granted, List.filterMap_map]
  rfl

/-! ## The scan of all policies -/

namespace Verdict

/-- One more policy overrides the verdict if it rules. -/
theorem next_eq (action path : String) (v : Verdict) (i : PolicyInstance) :
    next action path v i =
      ((i.policy.evaluate action path i.prebound).ruling? i.policy.name).getD v := by
  unfold next Evaluation.ruling?
  dsimp only
  split <;> rfl

/-- **The two scans are one**: the verdict is the last ruling in the row of all clauses. -/
theorem ofInstances_eq_lastRuling (instances : List PolicyInstance) (action path : String) :
    ofInstances instances action path =
      ((grantedClauses instances).filterMap
        (GrantedClause.ruling? action path)).getLast?.getD undecided := by
  induction instances using List.reverseRecOn with
  | nil => rfl
  | append_singleton instances i ih =>
    rw [ofInstances_append_singleton, next_eq, ruling?_evaluate, ih, grantedClauses,
      grantedClauses, List.flatMap_append, List.flatMap_singleton, List.filterMap_append,
      List.getLast?_append]
    cases (i.granted.filterMap (GrantedClause.ruling? action path)).getLast? <;> rfl

/-- The clause that decides gives the verdict. -/
theorem ofInstances_of_decides {instances : List PolicyInstance} {action path : String}
    {g : GrantedClause} {bindings : Bindings}
    (h : Decides (grantedClauses instances) action path g bindings) :
    ofInstances instances action path = g.verdict bindings := by
  obtain ⟨applies, before, after, split, idle⟩ := h
  have silent : after.filterMap (GrantedClause.ruling? action path) = [] :=
    List.filterMap_eq_nil_iff.mpr fun later mem =>
      GrantedClause.ruling?_eq_none_iff.mpr (idle later mem)
  rw [ofInstances_eq_lastRuling, split, List.filterMap_append, List.filterMap_cons,
    GrantedClause.ruling?_of_appliesWith applies, silent]
  simp

/-- Where no clause applies nothing is decided. -/
theorem ofInstances_of_idle {instances : List PolicyInstance} {action path : String}
    (idle : ∀ g ∈ grantedClauses instances, ∀ bindings, ¬ g.AppliesWith action path bindings) :
    ofInstances instances action path = undecided := by
  have silent : (grantedClauses instances).filterMap (GrantedClause.ruling? action path) = [] :=
    List.filterMap_eq_nil_iff.mpr fun g mem => GrantedClause.ruling?_eq_none_iff.mpr (idle g mem)
  rw [ofInstances_eq_lastRuling, silent]
  rfl

theorem isAllowed_verdict_iff (g : GrantedClause) (bindings : Bindings) :
    (g.verdict bindings).isAllowed = true ↔ g.clause.effect = .allow := by
  unfold GrantedClause.verdict isAllowed
  cases g.clause.effect <;> simp [Decision.ofEffect, Decision.isAllowed]

end Verdict

/-- **The last clause decides.**  Whatever state the directory is in, asking for a verdict
gives one.  Lay the clauses of all policies of the subject out in a row.  Either one of them
is the last that applies, and the verdict has its effect, its bindings and the name of its
policy, or none applies, and the verdict is open and permits nothing.  So a request is
permitted exactly if the clause that decides about it allows it. -/
theorem Authorizer.authorize_decided_by_last_clause (a : Authorizer) (subject : Subject)
    (action path : String) :
    let clauses := grantedClauses (a.directory.policiesFor subject).1
    ∃ verdict : Verdict,
      (a.step (.authorize subject action path)).answer = .verdict (.ok verdict) ∧
      ((∃ g bindings, Decides clauses action path g bindings ∧
          verdict = ⟨.ofEffect g.clause.effect, bindings, some g.source.policy.name⟩) ∨
        (∀ g ∈ clauses, ∀ bindings, ¬ g.AppliesWith action path bindings) ∧
          verdict = ⟨.indeterminate, .empty, none⟩) ∧
      (verdict.isAllowed = true ↔
        ∃ g bindings, Decides clauses action path g bindings ∧ g.clause.effect = .allow) := by
  intro clauses
  refine ⟨.ofInstances (a.directory.policiesFor subject).1 action path, rfl, ?_, ?_⟩
  · rcases exists_decides_or_none clauses action path with ⟨g, bindings, decides⟩ | idle
    · exact Or.inl ⟨g, bindings, decides, Verdict.ofInstances_of_decides decides⟩
    · exact Or.inr ⟨idle, Verdict.ofInstances_of_idle idle⟩
  · constructor
    · intro allowed
      rcases exists_decides_or_none clauses action path with ⟨g, bindings, decides⟩ | idle
      · rw [Verdict.ofInstances_of_decides decides, Verdict.isAllowed_verdict_iff] at allowed
        exact ⟨g, bindings, decides, allowed⟩
      · rw [Verdict.ofInstances_of_idle idle] at allowed
        cases allowed
    · rintro ⟨g, bindings, decides, allow⟩
      rw [Verdict.ofInstances_of_decides decides, Verdict.isAllowed_verdict_iff]
      exact allow

end Gatehouse
