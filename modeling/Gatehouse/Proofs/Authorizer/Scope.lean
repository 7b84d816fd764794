import Gatehouse.Authorizer.Operation
import Gatehouse.Proofs.Decision.LastClause
import Gatehouse.Proofs.Directory.Freshness
import Gatehouse.Proofs.Pattern.Matching

/-!
# Scopes

A grant fixes the value of a capture by its variables, and the policies that it gives carry the
capture in all their patterns: this is how somebody gets rights within one organization and no
further.  `PolicyInstance.ScopedTo` is the condition on a policy and its grant, and
`permissions_stay_in_scope` says what it is good for.  Whatever is permitted lies in the scope:
the path has the fixed value at every place of the capture in a pattern that describes it.

### What is load-bearing

The bindings of a verdict are merged from all patterns of the clause that describe the path.
Merging loses nothing, so a value that has been fixed beforehand goes through the match into
the bindings of the pattern, from there into the bindings of the clause, and with the clause
that decides into the verdict.  The one pattern that is shown to describe the path is any of
those that have been merged.

The value may be any text at all.  One that is empty, or has a slash in it, is no part of a
path that a capture accepts, and then nothing is permitted.

Nothing is asked of the memo.  It may even be stale: who asks twice is told the same
(`Directory.policiesFor_again`), and so a whole list of paths is decided from one list of
policies.
-/

namespace Gatehouse

open Bindings (Within)

/-- **The path has this value wherever the pattern captures the name**, and the pattern does. -/
def ObjectPattern.Pins (pattern : ObjectPattern) (name value path : String) : Prop :=
  (∃ position, pattern.CapturesAt name position) ∧
    ∀ position, pattern.CapturesAt name position → (Text.parts '/' path)[position]? = some value

/-- **The policy of an instance is scoped**: the grant fixes the value of a capture, and every
object pattern of the policy has this capture. -/
structure PolicyInstance.ScopedTo (i : PolicyInstance) (name value : String) : Prop where
  bound : i.prebound.get? name = some value
  captured : ∀ clause ∈ i.policy.clauses, ∀ pattern ∈ clause.objects,
    name ∈ pattern.captureNames

/-- **A permission within a scope**: the clause that decides allows the request, one of its
object patterns describes the path and pins the value there, and the bindings tell the value. -/
structure PermittedWithin (name value : String) (clauses : List GrantedClause)
    (action path : String) (bindings : Bindings) : Prop where
  decided : ∃ g, Decides clauses action path g bindings ∧ g.clause.effect = .allow ∧
    ∃ pattern ∈ g.clause.objects,
      (pattern.bindings? path).isSome ∧ pattern.Pins name value path
  bound : bindings.get? name = some value

/-! ## Patterns and clauses -/

/-- A value that is fixed beforehand is pinned by every match. -/
theorem ObjectPattern.pins_of_bindingsWith? {pattern : ObjectPattern} {path : String}
    {prebound found : Bindings} {name value : String}
    (matched : pattern.bindingsWith? path prebound = some found)
    (bound : prebound.get? name = some value) (captured : name ∈ pattern.captureNames) :
    pattern.Pins name value path := by
  refine ⟨exists_capturesAt captured, fun position captures => ?_⟩
  obtain ⟨part, stands, given⟩ := part_of_bindingsWith? matched captures
  have same : found.get? name = some value := within_of_bindingsWith? matched name value bound
  rw [stands, ← given, same]

/-- Some object pattern describes the path, and its bindings are among those of the clause. -/
theorem Clause.exists_of_objectBindings? {clause : Clause} {path : String}
    {prebound bindings : Bindings} (h : clause.objectBindings? path prebound = some bindings) :
    ∃ pattern ∈ clause.objects, ∃ found,
      pattern.bindingsWith? path prebound = some found ∧ Within found bindings := by
  unfold objectBindings? at h
  cases all : clause.objectMatches path prebound with
  | nil =>
    rw [all] at h
    cases h
  | cons found others =>
    rw [all] at h
    have mem : found ∈ clause.objectMatches path prebound := by simp [all]
    obtain ⟨pattern, stands, matched⟩ := List.mem_filterMap.mp mem
    obtain ⟨-, merged⟩ := Bindings.within_of_mergeAll? h
    exact ⟨pattern, stands, found, matched, merged found List.mem_cons_self⟩

/-! ## Verdicts -/

theorem mem_grantedClauses {instances : List PolicyInstance} {g : GrantedClause} :
    g ∈ grantedClauses instances ↔ g.source ∈ instances ∧ g.clause ∈ g.source.policy.clauses := by
  unfold grantedClauses PolicyInstance.granted
  simp only [List.mem_flatMap, List.mem_map]
  constructor
  · rintro ⟨i, held, clause, written, rfl⟩
    exact ⟨held, written⟩
  · rintro ⟨held, written⟩
    exact ⟨g.source, held, g.clause, written, rfl⟩

/-- **A verdict that permits does so within the scope.** -/
theorem Verdict.permittedWithin {instances : List PolicyInstance} {name value : String}
    (inScope : ∀ i ∈ instances, i.ScopedTo name value) {action path : String}
    (allowed : (Verdict.ofInstances instances action path).isAllowed = true) :
    PermittedWithin name value (grantedClauses instances) action path
      (Verdict.ofInstances instances action path).bindings := by
  rcases exists_decides_or_none (grantedClauses instances) action path with
    ⟨g, bindings, decides⟩ | idle
  · have verdict := ofInstances_of_decides decides
    rw [verdict, isAllowed_verdict_iff] at allowed
    rw [verdict]
    obtain ⟨⟨-, applies⟩, before, after, split, -⟩ := id decides
    have mem : g ∈ grantedClauses instances := by
      rw [split]
      simp
    obtain ⟨held, written⟩ := mem_grantedClauses.mp mem
    obtain ⟨bound, captured⟩ := inScope g.source held
    obtain ⟨pattern, stands, found, matched, within⟩ := Clause.exists_of_objectBindings? applies
    have pins := pattern.pins_of_bindingsWith? matched bound (captured _ written pattern stands)
    exact {
      decided := ⟨g, decides, allowed, pattern, stands, pattern.isSome_bindings? matched, pins⟩
      bound := within name value (pattern.within_of_bindingsWith? matched name value bound) }
  · rw [ofInstances_of_idle idle] at allowed
    cases allowed

namespace Authorizer

/-- All paths of a list are decided from the same policies. -/
theorem decideAll_eq (a : Authorizer) (subject : Subject) (action : String)
    (paths : List String) :
    (a.decideAll subject action paths).1 = paths.map fun path =>
      ⟨subject, action, path,
        .ofInstances (a.directory.policiesFor subject).1 action path⟩ := by
  induction paths generalizing a with
  | nil => rfl
  | cons path paths ih =>
    have again : ((a.decide subject action path).2.directory.policiesFor subject).1 =
        (a.directory.policiesFor subject).1 := a.directory.policiesFor_again subject
    rw [decideAll_cons, ih, again]
    rfl

/-- **Permissions stay in scope.**  Take any authorizer, a subject, a capture and a value.
Suppose that every policy of the subject is granted with this value for the capture, and has
the capture in every object pattern.  Then what the subject is permitted lies in the scope,
whether it asks for one verdict or for the permitted ones of some paths: the clause that decides
has an object pattern that describes the path, the path has the value wherever the capture
stands in the pattern, and the bindings give the value to the capture. -/
theorem permissions_stay_in_scope (a : Authorizer) (subject : Subject) (name value : String)
    (inScope : ∀ i ∈ (a.directory.policiesFor subject).1, i.ScopedTo name value) :
    let clauses := grantedClauses (a.directory.policiesFor subject).1
    (∀ action path, ∃ verdict : Verdict,
      (a.step (.authorize subject action path)).answer = .verdict (.ok verdict) ∧
        (verdict.isAllowed = true →
          PermittedWithin name value clauses action path verdict.bindings)) ∧
    ∀ action paths, ∃ kept : List (String × Bindings),
      (a.step (.filterAllowed subject action paths)).answer = .kept kept ∧
        ∀ entry ∈ kept, entry.1 ∈ paths ∧
          PermittedWithin name value clauses action entry.1 entry.2 := by
  intro clauses
  constructor
  · intro action path
    exact ⟨_, rfl, Verdict.permittedWithin inScope⟩
  · intro action paths
    refine ⟨_, rfl, fun entry mem => ?_⟩
    obtain ⟨observation, decided, permitted⟩ := List.mem_filterMap.mp mem
    rw [decideAll_eq] at decided
    obtain ⟨path, asked, rfl⟩ := List.mem_map.mp decided
    unfold Observation.kept? at permitted
    split at permitted
    · rename_i allowed
      cases permitted
      exact ⟨asked, Verdict.permittedWithin inScope allowed⟩
    · cases permitted

/-- A member of one organization asks for two projects, the second of which belongs to another
organization, and is left with the first one. -/
theorem member_is_kept_in_own_organization :
    let everything : ObjectPattern :=
      ⟨[.literal ⟨"organization", by decide⟩, .capture ⟨"org", by decide⟩], true, by simp⟩
    let member : Policy :=
      ⟨"member", [⟨.allow, [⟨[.any, .any], by simp⟩], [everything]⟩], by decide, by decide⟩
    let acme : Bindings := NameMap.empty.insert "org" "acme"
    let a : Authorizer := ((ofDirectory (.empty none)).run
      [.install member, .grant (.user "ann") ⟨.policy, "member", acme⟩]).2
    let policies := (a.directory.policiesFor (.user "ann")).1
    let paths := ["organization/acme/project/p1", "organization/globex/project/p1"]
    (∀ i ∈ policies, i.ScopedTo "org" "acme") ∧
      ∃ kept : List (String × Bindings),
        (a.step (.filterAllowed (.user "ann") "project.view" paths)).answer = .kept kept ∧
          kept = [("organization/acme/project/p1", acme)] ∧
          ∀ entry ∈ kept, PermittedWithin "org" "acme" (grantedClauses policies) "project.view"
            entry.1 entry.2 := by
  intro everything member acme a policies paths
  have granted : policies = [⟨member, acme, none⟩] := by decide +kernel
  have inScope : ∀ i ∈ policies, i.ScopedTo "org" "acme" := by
    intro i held
    rw [granted, List.mem_singleton] at held
    subst held
    exact ⟨by decide +kernel, by decide +kernel⟩
  obtain ⟨kept, answer, stays⟩ := (permissions_stay_in_scope a (.user "ann") "org" "acme"
    inScope).2 "project.view" paths
  have left : kept = [("organization/acme/project/p1", acme)] := by
    injection answer with same
    rw [← same]
    decide +kernel
  exact ⟨inScope, kept, answer, left, fun entry mem => (stays entry mem).2⟩

end Authorizer

end Gatehouse
