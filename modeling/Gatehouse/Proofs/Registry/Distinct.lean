import Gatehouse.Proofs.Registry.Locality
import Mathlib.Data.List.Induction

/-!
# What is granted twice

A subject has nothing twice.  What is granted again keeps the place that it has, and takes a
new one only if it has been taken away in between.  Where a list is made of all that has been
granted, this is what `List.eraseDups` does: of equal entries the first one stays.

So a list of all that is granted can be kept beside a registry, with repetitions.  Granting
puts one more grant behind it (`grantsOf_of_grant`), taking away removes what it removes from it
(`grantsOf_of_revoke`), and the registry has the list without its repetitions.
-/

namespace Gatehouse

section Lists

variable {α : Type u} [DecidableEq α]

theorem eraseDups_concat (xs : List α) (x : α) :
    (xs ++ [x]).eraseDups = if x ∈ xs then xs.eraseDups else xs.eraseDups ++ [x] := by
  rw [List.eraseDups_append]
  by_cases mem : x ∈ xs
  · rw [if_pos mem]
    simp [List.removeAll, mem]
  · rw [if_neg mem]
    simp [List.removeAll, mem, List.eraseDups_cons]

/-- Equal entries are taken away together, so the first ones can be looked for afterwards. -/
theorem eraseDups_filter (keep : α → Bool) (xs : List α) :
    (xs.filter keep).eraseDups = xs.eraseDups.filter keep := by
  induction xs using List.reverseRecOn with
  | nil => rfl
  | append_singleton xs x ih =>
    rw [List.filter_append, eraseDups_concat]
    cases kept : keep x with
    | false =>
      rw [List.filter_cons_of_neg (by simp [kept]), List.filter_nil, List.append_nil, ih]
      split
      · rfl
      · rw [List.filter_append, List.filter_cons_of_neg (by simp [kept]), List.filter_nil,
          List.append_nil]
    | true =>
      have mem : x ∈ xs.filter keep ↔ x ∈ xs := by simp [kept]
      rw [List.filter_cons_of_pos kept, List.filter_nil, eraseDups_concat, ih]
      simp only [mem]
      split
      · rfl
      · rw [List.filter_append, List.filter_cons_of_pos kept, List.filter_nil]

end Lists

namespace Registry

variable {r : Registry} {granted : Subject → List Grant}

/-- A grant comes last, unless the subject has it already. -/
theorem grantsOf_of_grant (held : ∀ other, r.grantsOf other = (granted other).eraseDups)
    {subject : Subject} {grant : Grant} {result : Bool × Registry}
    (h : r.grant subject grant = .ok result) (other : Subject) :
    result.2.grantsOf other =
      (granted other ++ if subject = other then [grant] else []).eraseDups := by
  have mem_iff : grant ∈ r.grantsOf subject ↔ grant ∈ granted subject := by
    rw [held subject, List.mem_eraseDups]
  rcases grant_cases h with ⟨old, rfl⟩ | ⟨new, rfl⟩
  · by_cases same : subject = other
    · subst same
      rw [if_pos rfl, eraseDups_concat, if_pos (mem_iff.mp old)]
      exact held subject
    · rw [if_neg same, List.append_nil]
      exact held other
  · rw [grantsOf_set]
    by_cases same : subject = other
    · subst same
      rw [if_pos rfl, if_pos rfl, eraseDups_concat, if_neg fun mem => new (mem_iff.mpr mem),
        held subject]
    · rw [if_neg same, if_neg same, List.append_nil]
      exact held other

/-- What is taken away is taken away with all its repetitions. -/
theorem grantsOf_of_revoke (held : ∀ other, r.grantsOf other = (granted other).eraseDups)
    (subject : Subject) (kind : GrantKind) (name : String) (other : Subject) :
    (r.revoke subject kind name).2.grantsOf other =
      ((granted other).filter fun grant =>
        !(subject = other && grant.isOf kind name)).eraseDups := by
  rw [eraseDups_filter, ← held other]
  by_cases same : subject = other
  · subst same
    rcases r.revoke_cases subject kind name with ⟨none, eq⟩ | ⟨-, eq⟩
    · rw [eq, List.filter_eq_self.mpr fun grant mem => by simp [none grant mem]]
    · rw [eq, grantsOf_set, if_pos rfl]
      simp
  · have all : ((r.grantsOf other).filter fun grant =>
        !(subject = other && grant.isOf kind name)) = r.grantsOf other :=
      List.filter_eq_self.mpr fun grant mem => by simp [same]
    rw [all]
    rcases r.regrants_revoke subject kind name with eq | ⟨-, frame⟩
    · rw [eq]
    · exact frame.grants other fun eq => same eq.symm

end Registry

end Gatehouse
