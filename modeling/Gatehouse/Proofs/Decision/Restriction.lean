import Gatehouse.Proofs.Decision.LastClause
import Gatehouse.Proofs.Decision.PatternSets
import Gatehouse.Proofs.Pattern.Prebinding
import Gatehouse.Proofs.Registry.Locality

/-!
# What variables leave out

A grant with variables is meant to give less than the same grant without, and for a single
object pattern it does: what matches with names bound beforehand matches without
(`ObjectPattern.isSome_bindings?`).  For a clause that is not all there is to it.  The object
patterns that describe a path have to agree, and a pattern that the variables leave out has
nothing to agree with any more.  So variables can settle a dispute (`Clause.SettlesDispute`),
and then the clause applies with them and does not apply without them
(`settled_dispute_permits_more`).

There is no other way.  A clause that applies with variables, and whose disputes they do not
settle, applies without them as well.  From clauses this carries over to policies that only
allow, and from these to verdicts, whatever else is granted before and behind
(`variables_restrict_or_settle_disputes`).

*What is load-bearing.*  A policy that only allows permits a request exactly if one of its
clauses applies, and takes no permission away otherwise (`Verdict.isAllowed_next_iff`).  So the
policies before it and behind it need no attention, and of the grant it only matters that its
place in the list does not depend on its variables (`Registry.SameExcept.exchange`).
-/

namespace Gatehouse

open Bindings (Within Agree)

namespace Bindings

theorem Agree.symm {a b : Bindings} (agree : Agree a b) : Agree b a :=
  fun name x y first second => (agree name y x second first).symm

/-- What is within maps that agree agrees. -/
theorem Agree.of_within {a b more others : Bindings} (agree : Agree more others)
    (left : Within a more) (right : Within b others) : Agree a b :=
  fun name x y first second => agree name x y (left name x first) (right name y second)

end Bindings

namespace Clause

variable {clause : Clause} {action path : String} {prebound : Bindings}

/-- **Variables settle a dispute**: two object patterns of the clause describe the path and
disagree, and the variables leave out one of them. -/
def SettlesDispute (clause : Clause) (path : String) (prebound : Bindings) : Prop :=
  ∃ kept ∈ clause.objects, ∃ left ∈ clause.objects, ∃ a b,
    kept.bindings? path = some a ∧ left.bindings? path = some b ∧ ¬ Agree a b ∧
      left.bindingsWith? path prebound = none

/-- Two patterns that describe the path agree, unless the variables leave out one of them. -/
theorem agree_of_objectBindings? (describes : (clause.objectBindings? path prebound).isSome)
    (settles : ¬ clause.SettlesDispute path prebound) {a b : Bindings}
    (findsA : clause.Finds path .empty a) (findsB : clause.Finds path .empty b) : Agree a b := by
  by_contra disagree
  obtain ⟨first, writtenFirst, plainA⟩ := findsA
  obtain ⟨second, writtenSecond, plainB⟩ := findsB
  cases withFirst : first.bindingsWith? path prebound with
  | none =>
    exact settles ⟨second, writtenSecond, first, writtenFirst, b, a, plainB, plainA,
      fun agree => disagree agree.symm, withFirst⟩
  | some more =>
    cases withSecond : second.bindingsWith? path prebound with
    | none =>
      exact settles ⟨first, writtenFirst, second, writtenSecond, a, b, plainA, plainB,
        disagree, withSecond⟩
    | some others =>
      -- Neither is left out, so both have been merged.
      have agree : Agree more others := (isSome_objectBindings?_iff.mp describes).2 more others
        ⟨first, writtenFirst, withFirst⟩ ⟨second, writtenSecond, withSecond⟩
      rw [ObjectPattern.bindingsWith?_eq_merge? plainA] at withFirst
      rw [ObjectPattern.bindingsWith?_eq_merge? plainB] at withSecond
      exact disagree (agree.of_within (Bindings.within_of_merge? withFirst).2
        (Bindings.within_of_merge? withSecond).2)

/-- **A clause that describes a path with variables** describes it without them, unless they
settle a dispute. -/
theorem isSome_objectBindings?_empty_iff
    (describes : (clause.objectBindings? path prebound).isSome) :
    (clause.objectBindings? path .empty).isSome ↔ ¬ clause.SettlesDispute path prebound := by
  constructor
  · rintro without ⟨kept, writtenKept, left, writtenLeft, a, b, plainA, plainB, disagree, -⟩
    exact disagree ((isSome_objectBindings?_iff.mp without).2 a b
      ⟨kept, writtenKept, plainA⟩ ⟨left, writtenLeft, plainB⟩)
  · intro settles
    obtain ⟨found, pattern, written, matched⟩ := (isSome_objectBindings?_iff.mp describes).1
    obtain ⟨plain, without⟩ :=
      Option.isSome_iff_exists.mp (ObjectPattern.isSome_bindings? matched)
    exact isSome_objectBindings?_iff.mpr ⟨⟨plain, pattern, written, without⟩,
      fun a b findsA findsB => agree_of_objectBindings? describes settles findsA findsB⟩

/-- The variables have no part in whether the action is admitted. -/
theorem isSome_applies?_iff :
    (clause.applies? action path prebound).isSome ↔
      clause.admitsAction action = true ∧ (clause.objectBindings? path prebound).isSome := by
  unfold applies?
  cases clause.admitsAction action <;> simp

/-- **A clause that applies with variables** applies without them, unless they settle a
dispute. -/
theorem isSome_applies?_empty_iff (applies : (clause.applies? action path prebound).isSome) :
    (clause.applies? action path .empty).isSome ↔ ¬ clause.SettlesDispute path prebound := by
  rw [isSome_applies?_iff] at applies ⊢
  rw [isSome_objectBindings?_empty_iff applies.2]
  exact and_iff_right applies.1

end Clause

/-! ## Verdicts -/

/-- The policy has no clause that denies anything. -/
def Policy.OnlyAllows (policy : Policy) : Prop := ∀ clause ∈ policy.clauses, clause.effect = .allow

/-- Some clause of the policy applies to a request, with the variables of the grant. -/
def PolicyInstance.Applies (i : PolicyInstance) (action path : String) : Prop :=
  ∃ clause ∈ i.policy.clauses, (clause.applies? action path i.prebound).isSome

/-- **A policy applies by settled disputes only**: some clause applies to the request with the
variables of the grant, and they settle a dispute for every clause that does. -/
def PolicyInstance.AppliesBySettling (i : PolicyInstance) (action path : String) : Prop :=
  i.Applies action path ∧ ∀ clause ∈ i.policy.clauses,
    (clause.applies? action path i.prebound).isSome → clause.SettlesDispute path i.prebound

/-- A policy that applies with variables applies without them, unless it does so by settled
disputes only. -/
theorem PolicyInstance.applies_or_appliesBySettling {policy : Policy} {prebound : Bindings}
    {role : Option String} {action path : String}
    (applies : Applies ⟨policy, prebound, role⟩ action path) :
    Applies ⟨policy, .empty, role⟩ action path ∨
      AppliesBySettling ⟨policy, prebound, role⟩ action path := by
  by_cases without : Applies ⟨policy, .empty, role⟩ action path
  · exact Or.inl without
  · refine Or.inr ⟨applies, fun clause written here => ?_⟩
    by_contra settles
    exact without ⟨clause, written, (Clause.isSome_applies?_empty_iff here).mpr settles⟩

namespace Verdict

variable {i : PolicyInstance} {action path : String} {v w : Verdict}

/-- A policy that only allows permits a request if one of its clauses applies, and leaves the
verdict as it is otherwise. -/
theorem isAllowed_next_iff (only : i.policy.OnlyAllows) :
    (next action path v i).isAllowed = true ↔ i.Applies action path ∨ v.isAllowed = true := by
  rw [next_eq, ruling?_evaluate]
  cases last : (i.granted.filterMap (GrantedClause.ruling? action path)).getLast? with
  | none =>
    have idle : ¬ i.Applies action path := by
      rintro ⟨clause, written, applies⟩
      obtain ⟨bindings, applies⟩ := Option.isSome_iff_exists.mp applies
      rw [List.getLast?_eq_none_iff, List.filterMap_eq_nil_iff] at last
      have silent := last ⟨i, clause⟩ (List.mem_map.mpr ⟨clause, written, rfl⟩)
      rw [GrantedClause.ruling?, applies] at silent
      cases silent
    simp [idle]
  | some ruling =>
    obtain ⟨g, granted, rules⟩ := List.mem_filterMap.mp (List.mem_of_getLast? last)
    obtain ⟨clause, written, rfl⟩ := List.mem_map.mp granted
    obtain ⟨bindings, applies, rfl⟩ := Option.map_eq_some_iff.mp rules
    have allows : (GrantedClause.verdict ⟨i, clause⟩ bindings).isAllowed = true :=
      (isAllowed_verdict_iff _ _).mpr (only clause written)
    have here : i.Applies action path := ⟨clause, written, Option.isSome_of_eq_some applies⟩
    simp [allows, here]

/-- The policies that are asked later make the same of either verdict. -/
theorem isAllowed_foldl_next (better : v.isAllowed = true → w.isAllowed = true)
    (instances : List PolicyInstance)
    (allowed : (instances.foldl (next action path) v).isAllowed = true) :
    (instances.foldl (next action path) w).isAllowed = true := by
  induction instances generalizing v w with
  | nil => exact better allowed
  | cons i instances ih =>
    refine ih ?_ allowed
    rw [next_eq, next_eq]
    cases (i.policy.evaluate action path i.prebound).ruling? i.policy.name with
    | none => exact better
    | some ruling => exact id

/-- One policy that only allows can be put in the place of another one, if it applies where the
other one applies. -/
theorem isAllowed_exchange {i j : PolicyInstance} {before after : List PolicyInstance}
    (onlyI : i.policy.OnlyAllows) (onlyJ : j.policy.OnlyAllows)
    (carries : i.Applies action path → j.Applies action path)
    (allowed : (ofInstances (before ++ i :: after) action path).isAllowed = true) :
    (ofInstances (before ++ j :: after) action path).isAllowed = true := by
  unfold ofInstances at allowed ⊢
  rw [List.foldl_append, List.foldl_cons] at allowed ⊢
  refine isAllowed_foldl_next ?_ after allowed
  rw [isAllowed_next_iff onlyI, isAllowed_next_iff onlyJ]
  exact Or.imp_left carries

end Verdict

/-! ## Grants -/

/-- A grant of an installed policy contributes this policy with its variables. -/
theorem Registry.expand_policy {r : Registry} {name : String} {policy : Policy}
    (installed : r.policy? name = some policy) (prebound : Bindings) :
    r.expand ⟨.policy, name, prebound⟩ = [⟨policy, prebound, none⟩] := by
  simp [expand, instancesOf, installed]

/-- **Variables restrict, or they settle disputes.**  A clause that applies to a request with
some variables applies without them too, except if they settle a dispute: two of its object
patterns describe the path and disagree, and the variables leave out one of them.  In this
case it does not apply without them.

Take a grant of a policy that only allows, anywhere among other grants, and take its variables
away.  What has been permitted to anybody is permitted still, except if the policy applies with
the variables, and by settled disputes only. -/
theorem variables_restrict_or_settle_disputes :
    (∀ (clause : Clause) (action path : String) (prebound : Bindings),
      (clause.applies? action path prebound).isSome →
        ((clause.applies? action path .empty).isSome ↔
          ¬ clause.SettlesDispute path prebound)) ∧
    ∀ (r s : Registry) (subject asker : Subject) (earlier later : List Grant) (name : String)
      (policy : Policy) (prebound : Bindings) (action path : String),
      r.policy? name = some policy → policy.OnlyAllows →
      Registry.SameExcept subject r s →
      r.grantsOf subject = earlier ++ ⟨.policy, name, prebound⟩ :: later →
      s.grantsOf subject = earlier ++ ⟨.policy, name, .empty⟩ :: later →
      (Verdict.ofInstances (r.policiesFor asker) action path).isAllowed = true →
      (Verdict.ofInstances (s.policiesFor asker) action path).isAllowed = true ∨
        PolicyInstance.AppliesBySettling ⟨policy, prebound, none⟩ action path := by
  refine ⟨fun clause action path prebound => Clause.isSome_applies?_empty_iff, ?_⟩
  intro r s subject asker earlier later name policy prebound action path installed only
    sameExcept granted regranted allowed
  by_cases settled : PolicyInstance.AppliesBySettling ⟨policy, prebound, none⟩ action path
  · exact Or.inr settled
  · left
    rcases sameExcept.exchange granted regranted asker with same | ⟨front, back, before, after⟩
    · rw [same]
      exact allowed
    · rw [Registry.expand_policy installed, List.singleton_append] at before after
      rw [before] at allowed
      rw [after]
      refine Verdict.isAllowed_exchange only only (fun applies => ?_) allowed
      exact (PolicyInstance.applies_or_appliesBySettling applies).resolve_right settled

/-- One pattern finds `a` for the capture that they share and the other one finds `b`.  With
the capture fixed to `a` the second one is left out, and the clause applies; without variables
it does not.  Granted with this variable, a policy that has no other clause permits the request,
and granted without it does not. -/
theorem settled_dispute_permits_more :
    let x : CaptureName := ⟨"x", by decide⟩
    let first : ObjectPattern := ⟨[.capture x, .literal ⟨"b", by decide⟩], false, by simp⟩
    let second : ObjectPattern := ⟨[.literal ⟨"a", by decide⟩, .capture x], false, by simp⟩
    let clause : Clause := ⟨.allow, [⟨[.any, .any], by simp⟩], [first, second]⟩
    let policy : Policy := ⟨"crossed", [clause], by decide, by decide⟩
    let fixed : Bindings := NameMap.empty.insert "x" "a"
    let permits : Bindings → Except RegistryFault Bool := fun prebound =>
      ((Registry.empty.install policy).grant (.user "ann") ⟨.policy, "crossed", prebound⟩).map
        fun granted =>
          (Verdict.ofInstances (granted.2.policiesFor (.user "ann")) "project.view" "a/b").isAllowed
    ((clause.applies? "project.view" "a/b" fixed).isSome = true ∧
      (clause.applies? "project.view" "a/b" .empty).isSome = false) ∧
    (∀ c ∈ policy.clauses, c.effect = .allow) ∧
      permits fixed = .ok true ∧ permits .empty = .ok false := by
  decide +kernel

/-- The clause whose two patterns can disagree applies with the capture fixed to `c` where only
one of them describes the path, and applies there without the variable.  The grant overrides an
earlier one of a policy that denies the request, with the variable and without it. -/
theorem undisputed_grant_permits_without_variables :
    let x : CaptureName := ⟨"x", by decide⟩
    let first : ObjectPattern := ⟨[.capture x, .literal ⟨"b", by decide⟩], false, by simp⟩
    let second : ObjectPattern := ⟨[.literal ⟨"a", by decide⟩, .capture x], false, by simp⟩
    let anything : ActionPattern := ⟨[.any, .any], by simp⟩
    let clause : Clause := ⟨.allow, [anything], [first, second]⟩
    let policy : Policy := ⟨"crossed", [clause], by decide, by decide⟩
    let closed : Policy :=
      ⟨"closed", [⟨.deny, [anything], [⟨[], true, by simp⟩]⟩], by decide, by decide⟩
    let fixed : Bindings := NameMap.empty.insert "x" "c"
    let ann : Subject := .user "ann"
    let denied : Grant := ⟨.policy, "closed", .empty⟩
    let granting : Bindings → Registry := fun prebound =>
      { (Registry.empty.install closed).install policy with
        grants := Ledger.empty.set ann [denied, ⟨.policy, "crossed", prebound⟩] }
    ((clause.applies? "project.view" "c/b" fixed).isSome ∧
      ((clause.applies? "project.view" "c/b" .empty).isSome ↔
        ¬ clause.SettlesDispute "c/b" fixed) ∧
      (clause.applies? "project.view" "c/b" .empty).isSome) ∧
    ((granting fixed).policy? "crossed" = some policy ∧ policy.OnlyAllows ∧
      Registry.SameExcept ann (granting fixed) (granting .empty) ∧
      (granting fixed).grantsOf ann = [denied] ++ ⟨.policy, "crossed", fixed⟩ :: [] ∧
      (granting .empty).grantsOf ann = [denied] ++ ⟨.policy, "crossed", .empty⟩ :: []) ∧
    (Verdict.ofInstances ((granting fixed).policiesFor ann) "project.view" "c/b").isAllowed =
      true ∧
    (Verdict.ofInstances ((granting .empty).policiesFor ann) "project.view" "c/b").isAllowed =
      true := by
  intro x first second anything clause policy closed fixed ann denied granting
  have applies : (clause.applies? "project.view" "c/b" fixed).isSome := by decide +kernel
  have without : (clause.applies? "project.view" "c/b" .empty).isSome := by decide +kernel
  have undisputed := variables_restrict_or_settle_disputes.1 clause "project.view" "c/b" fixed
    applies
  have installed : (granting fixed).policy? "crossed" = some policy := by decide +kernel
  have only : policy.OnlyAllows := by
    intro c written
    rw [List.mem_singleton.mp written]
  have sameExcept : Registry.SameExcept ann (granting fixed) (granting .empty) :=
    Registry.sameExcept_set (granting fixed) ann [denied, ⟨.policy, "crossed", .empty⟩]
  have granted : (granting fixed).grantsOf ann = [denied] ++ ⟨.policy, "crossed", fixed⟩ :: [] := by
    decide +kernel
  have regranted :
      (granting .empty).grantsOf ann = [denied] ++ ⟨.policy, "crossed", .empty⟩ :: [] := by
    decide +kernel
  have allowed : (Verdict.ofInstances ((granting fixed).policiesFor ann) "project.view"
      "c/b").isAllowed = true := by
    decide +kernel
  refine ⟨⟨applies, undisputed, without⟩, ⟨installed, only, sameExcept, granted, regranted⟩,
    allowed, ?_⟩
  rcases variables_restrict_or_settle_disputes.2 (granting fixed) (granting .empty) ann ann
    [denied] [] "crossed" policy fixed "project.view" "c/b" installed only sameExcept granted
    regranted allowed with permitted | ⟨-, settled⟩
  · exact permitted
  · exact absurd (settled clause List.mem_cons_self applies) (undisputed.mp without)

end Gatehouse
