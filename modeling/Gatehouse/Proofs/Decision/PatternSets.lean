import Gatehouse.Policy.Decision
import Gatehouse.Proofs.Bindings.Union
import Gatehouse.Proofs.Pattern.Matching
import Mathlib.Data.List.Forall2

/-!
# The patterns of a clause are a set

Patterns are written in some order, and the object patterns of a clause are matched and merged
in this order, up to the first disagreement.  The order does not show.  A clause describes a
path exactly if one of its object patterns does and any two of those that do agree on the names
that they share, and its bindings are the union of theirs (`Clause.UnionOfMatches`).

Both conditions speak of the patterns of the clause and not of their places.  So it makes no
difference in what order patterns are written, or how often (`Clause.SamePatterns`).  That is
not so for the clauses of a policy: the last one that applies decides.

*What is load-bearing.*  What has been bound beforehand is carried along by every pattern, so
it can be no cause of disagreement, and it needs no place of its own in the union.
-/

namespace Gatehouse

open Bindings (Within Agree)

namespace Clause

/-- **The clause finds bindings**: one of its object patterns describes the path with them. -/
def Finds (clause : Clause) (path : String) (prebound found : Bindings) : Prop :=
  ∃ pattern ∈ clause.objects, pattern.bindingsWith? path prebound = some found

/-- **The bindings are the union** of those of all object patterns that describe the path.
They have what has been bound beforehand, and wherever one of these patterns captures a name
they have the part of the path that stands there. -/
structure UnionOfMatches (clause : Clause) (path : String) (prebound bindings : Bindings) :
    Prop where
  union : ∀ name value, bindings.get? name = some value ↔
    ∃ found, clause.Finds path prebound found ∧ found.get? name = some value
  carried : Within prebound bindings
  captures : ∀ pattern ∈ clause.objects, (pattern.bindingsWith? path prebound).isSome →
    ∀ name position, pattern.CapturesAt name position →
      ∃ part, (Text.parts '/' path)[position]? = some part ∧ bindings.get? name = some part

/-- **Two clauses have the same patterns**, perhaps in another order or more often. -/
structure SamePatterns (clause other : Clause) : Prop where
  effect : other.effect = clause.effect
  actions : ∀ pattern, pattern ∈ other.actions ↔ pattern ∈ clause.actions
  objects : ∀ pattern, pattern ∈ other.objects ↔ pattern ∈ clause.objects

variable {clause other : Clause} {path : String} {prebound bindings : Bindings}

/-! ## What a clause merges -/

theorem mem_objectMatches {found : Bindings} :
    found ∈ clause.objectMatches path prebound ↔ clause.Finds path prebound found :=
  List.mem_filterMap

/-- A clause merges what it finds, if it finds anything. -/
theorem objectBindings?_of_finds (finds : ∃ found, clause.Finds path prebound found) :
    clause.objectBindings? path prebound =
      Bindings.mergeAll? .empty (clause.objectMatches path prebound) := by
  obtain ⟨found, finds⟩ := finds
  have mem := mem_objectMatches.mpr finds
  unfold objectBindings?
  cases all : clause.objectMatches path prebound with
  | nil =>
    rw [all] at mem
    cases mem
  | cons first rest => rfl

/-- A clause that finds nothing does not describe the path. -/
theorem finds_of_objectBindings? (h : clause.objectBindings? path prebound = some bindings) :
    ∃ found, clause.Finds path prebound found := by
  unfold objectBindings? at h
  cases all : clause.objectMatches path prebound with
  | nil =>
    rw [all] at h
    cases h
  | cons first rest =>
    have mem : first ∈ clause.objectMatches path prebound := by simp [all]
    exact ⟨first, mem_objectMatches.mp mem⟩

/-- **A clause describes a path** if it finds something, and nothing that disagrees. -/
theorem isSome_objectBindings?_iff :
    (clause.objectBindings? path prebound).isSome ↔
      (∃ found, clause.Finds path prebound found) ∧
        ∀ a b, clause.Finds path prebound a → clause.Finds path prebound b → Agree a b := by
  constructor
  · intro describes
    obtain ⟨bindings, h⟩ := Option.isSome_iff_exists.mp describes
    have finds := finds_of_objectBindings? h
    rw [objectBindings?_of_finds finds, Bindings.isSome_mergeAll?_iff] at describes
    exact ⟨finds, fun a b findsA findsB =>
      describes a (mem_objectMatches.mpr findsA) b (mem_objectMatches.mpr findsB)⟩
  · rintro ⟨finds, agree⟩
    rw [objectBindings?_of_finds finds, Bindings.isSome_mergeAll?_iff]
    intro a memA b memB
    exact agree a b (mem_objectMatches.mp memA) (mem_objectMatches.mp memB)

/-- **What is bound in the end is what has been found.** -/
theorem unionOfMatches (h : clause.objectBindings? path prebound = some bindings) :
    clause.UnionOfMatches path prebound bindings := by
  have finds := finds_of_objectBindings? h
  rw [objectBindings?_of_finds finds, Bindings.mergeAll?_eq_some_iff] at h
  have union : ∀ name value, bindings.get? name = some value ↔
      ∃ found, clause.Finds path prebound found ∧ found.get? name = some value := by
    intro name value
    rw [h name value]
    simp only [mem_objectMatches]
  refine ⟨union, ?_, ?_⟩
  · intro name value bound
    obtain ⟨found, pattern, stands, matched⟩ := finds
    have carried : found.get? name = some value :=
      ObjectPattern.within_of_bindingsWith? matched name value bound
    exact (union name value).mpr ⟨found, ⟨pattern, stands, matched⟩, carried⟩
  · intro pattern stands describes name position captures
    obtain ⟨found, matched⟩ := Option.isSome_iff_exists.mp describes
    obtain ⟨part, here, given⟩ := ObjectPattern.part_of_bindingsWith? matched captures
    exact ⟨part, here, (union name part).mpr ⟨found, ⟨pattern, stands, matched⟩, given⟩⟩

/-! ## Clauses with the same patterns -/

namespace SamePatterns

theorem admitsAction (same : SamePatterns clause other) (action : String) :
    other.admitsAction action = clause.admitsAction action := by
  rw [Bool.eq_iff_iff]
  unfold Clause.admitsAction
  rw [List.any_eq_true, List.any_eq_true]
  simp only [same.actions]

theorem finds_iff (same : SamePatterns clause other) (path : String) (prebound found : Bindings) :
    other.Finds path prebound found ↔ clause.Finds path prebound found := by
  unfold Finds
  simp only [same.objects]

theorem objectBindings? (same : SamePatterns clause other) (path : String) (prebound : Bindings) :
    other.objectBindings? path prebound = clause.objectBindings? path prebound := by
  by_cases finds : ∃ found, clause.Finds path prebound found
  · have findsOther : ∃ found, other.Finds path prebound found := by
      simpa only [same.finds_iff] using finds
    rw [objectBindings?_of_finds finds, objectBindings?_of_finds findsOther]
    apply Bindings.mergeAll?_congr
    intro found
    rw [mem_objectMatches, mem_objectMatches, same.finds_iff]
  · -- Neither clause can describe the path.
    have none : clause.objectBindings? path prebound = none :=
      Option.eq_none_iff_forall_ne_some.mpr fun bindings h => finds (finds_of_objectBindings? h)
    rw [none, Option.eq_none_iff_forall_ne_some]
    intro bindings h
    have findsOther := finds_of_objectBindings? h
    simp only [same.finds_iff] at findsOther
    exact finds findsOther

theorem applies? (same : SamePatterns clause other) (action path : String) (prebound : Bindings) :
    other.applies? action path prebound = clause.applies? action path prebound := by
  unfold Clause.applies?
  rw [same.admitsAction, same.objectBindings?]

end SamePatterns

end Clause

namespace Policy

/-- The scan goes through clauses with the same patterns in the same way. -/
theorem scan_congr {clauses others : List Clause}
    (same : List.Forall₂ Clause.SamePatterns clauses others) (action path : String)
    (prebound : Bindings) (start : Nat) (result : Evaluation) :
    scan action path prebound start result others =
      scan action path prebound start result clauses := by
  induction same generalizing start result with
  | nil => rfl
  | @cons clause other clauses others first rest ih =>
    have effect : ∀ bindings, Evaluation.ofClause start other bindings =
        Evaluation.ofClause start clause bindings := by
      intro bindings
      unfold Evaluation.ofClause
      rw [first.effect]
    rw [scan_cons, scan_cons, first.applies?, ih]
    simp only [effect]

/-- **The patterns of a clause count as a set.**  A clause describes a path, with some names
bound beforehand, exactly if one of its object patterns does and any two that do agree on the
names that they share; its bindings are the union of theirs.  Therefore two policies whose
clauses have the same patterns, written in any order and any number of times, decide every
request alike: they take the same decision, by the clause at the same position, and with the
same bindings. -/
theorem patterns_count_as_sets :
    (∀ (clause : Clause) (path : String) (prebound : Bindings),
      ((clause.objectBindings? path prebound).isSome ↔
        (∃ found, clause.Finds path prebound found) ∧
          ∀ a b, clause.Finds path prebound a → clause.Finds path prebound b → Agree a b) ∧
      ∀ bindings, clause.objectBindings? path prebound = some bindings →
        clause.UnionOfMatches path prebound bindings) ∧
    ∀ p q : Policy, List.Forall₂ Clause.SamePatterns p.clauses q.clauses →
      ∀ action path prebound,
        q.evaluate action path prebound = p.evaluate action path prebound := by
  constructor
  · intro clause path prebound
    exact ⟨Clause.isSome_objectBindings?_iff, fun bindings => Clause.unionOfMatches⟩
  · intro p q same action path prebound
    unfold evaluate
    exact scan_congr same action path prebound 0 .none

/-- Two patterns share a capture, which they find at different positions.  One policy has them
once, the other one in the opposite order and one of them twice.  Where the two positions agree
both policies allow the request with the same bindings, and where they do not both leave it
open. -/
theorem repeated_patterns_decide_alike :
    let any : ActionPattern := ⟨[.any], by simp⟩
    let first : ObjectPattern := ⟨[.capture ⟨"id", by decide⟩, .any], false, by simp⟩
    let second : ObjectPattern :=
      ⟨[.capture ⟨"kind", by decide⟩, .capture ⟨"id", by decide⟩], false, by simp⟩
    let p : Policy := ⟨"p", [⟨.allow, [any], [first, second]⟩], by decide, by decide⟩
    let q : Policy := ⟨"q", [⟨.allow, [any, any], [second, first, second]⟩], by decide, by decide⟩
    let bound : Bindings := (NameMap.empty.insert "id" "a").insert "kind" "a"
    List.Forall₂ Clause.SamePatterns p.clauses q.clauses ∧
      (q.evaluate "view" "a/a" .empty = p.evaluate "view" "a/a" .empty ∧
        p.evaluate "view" "a/a" .empty = ⟨.allow, bound, some 0⟩) ∧
      (q.evaluate "view" "a/b" .empty = p.evaluate "view" "a/b" .empty ∧
        p.evaluate "view" "a/b" .empty = .none) := by
  intro any first second p q bound
  have same : List.Forall₂ Clause.SamePatterns p.clauses q.clauses := by
    refine .cons ⟨rfl, fun pattern => ?_, fun pattern => ?_⟩ .nil
    · simp
    · simp only [List.mem_cons, List.not_mem_nil, or_false]
      tauto
  have alike := patterns_count_as_sets.2 p q same
  exact ⟨same, ⟨alike "view" "a/a" .empty, by decide +kernel⟩,
    ⟨alike "view" "a/b" .empty, by decide +kernel⟩⟩

end Policy

end Gatehouse
