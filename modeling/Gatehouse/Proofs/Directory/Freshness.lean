import Gatehouse.Proofs.Memo.Serving
import Gatehouse.Proofs.Registry.Locality
import Gatehouse.Registry.Directory

/-!
# No stale policies

A directory is *fresh* if its memo would serve nothing but what the registry resolves at
present.  Every operation keeps a directory fresh, and on a fresh directory no operation can
tell whether there is a memo at all.

### What is load-bearing

The memo is told about a change of the registry as a whole, or about one subject.  In the
first case nothing is served afterwards, and there is nothing to show.  In the second case
everybody else's results are still served, and it takes the locality of grants to know that
they are still right (`Registry.SameExcept.policiesFor`).  Locality fails for the default
subject, and this is the reason why `forget` treats it apart.

An operation that says that nothing has changed announces nothing, so it must not have
changed anything: this is the first alternative of `Registry.Regrants`.
-/

namespace Gatehouse.Directory

/-- The directory with its memo thrown away. -/
def withoutMemo (d : Directory) : Directory := ⟨d.registry, none⟩

@[simp] theorem registry_withoutMemo (d : Directory) : d.withoutMemo.registry = d.registry := rfl

/-- **What the memo would serve is what the registry resolves at present.** -/
def Fresh (d : Directory) : Prop :=
  ∀ memo, d.memo = some memo → ∀ subject policies, memo.get? subject = some policies →
    policies = d.registry.policiesFor subject

theorem fresh_of_empty (registry : Registry) (capacity batch : Nat) :
    Fresh ⟨registry, some (.empty capacity batch)⟩ := by
  intro memo kept subject policies served
  cases kept
  rw [Memo.get?_empty] at served
  cases served

/-- A directory that has forgotten everything is fresh, whatever its registry is. -/
theorem fresh_forgetAll (registry : Registry) (memo : Option ResolutionMemo) :
    Fresh ⟨registry, forgetAll memo⟩ := by
  intro later kept subject policies served
  obtain ⟨earlier, -, rfl⟩ := Option.map_eq_some_iff.mp kept
  rw [Memo.get?_invalidateAll] at served
  cases served

/-- A directory that has forgotten one subject is fresh if the registry resolves all other
subjects as before. -/
theorem fresh_forget {d : Directory} (fresh : d.Fresh) {registry : Registry} {subject : Subject}
    (others : subject.isDefault = false → ∀ other, other ≠ subject →
      registry.policiesFor other = d.registry.policiesFor other) :
    Fresh ⟨registry, forget d.memo subject⟩ := by
  unfold forget
  cases own : subject.isDefault with
  -- The grants of the default subject are in everybody's list, and nothing is kept.
  | true => exact fresh_forgetAll registry d.memo
  | false =>
    intro later kept other policies served
    obtain ⟨earlier, had, rfl⟩ := Option.map_eq_some_iff.mp kept
    rw [Memo.get?_invalidate] at served
    by_cases same : subject = other
    · rw [if_pos same] at served
      cases served
    · rw [if_neg same] at served
      have before := fresh earlier had other policies served
      exact before.trans (others own other fun eq => same eq.symm).symm

/-! ## Policies and roles -/

theorem fresh_install (d : Directory) (policy : Policy) : (d.install policy).Fresh :=
  fresh_forgetAll _ d.memo

theorem withoutMemo_install (d : Directory) (policy : Policy) :
    d.withoutMemo.install policy = (d.install policy).withoutMemo := rfl

theorem fresh_defineRole {d e : Directory} {role : Role} (h : d.defineRole role = .ok e) :
    e.Fresh := by
  unfold defineRole at h
  split at h
  · cases h
  · cases h
    exact fresh_forgetAll _ d.memo

theorem withoutMemo_defineRole (d : Directory) (role : Role) :
    d.withoutMemo.defineRole role = (d.defineRole role).map withoutMemo := by
  unfold defineRole
  rw [registry_withoutMemo]
  cases d.registry.defineRole role <;> rfl

/-! ## Grants -/

theorem fresh_regrant {d : Directory} (fresh : d.Fresh) {subject : Subject}
    {result : Bool × Registry} (h : d.registry.Regrants subject result) :
    (d.regrant subject result).2.Fresh := by
  rcases h with rfl | ⟨changed, frame⟩
  · exact fresh
  · unfold regrant
    rw [if_pos changed]
    exact fresh_forget fresh fun own other ne => frame.policiesFor own ne

theorem withoutMemo_regrant (d : Directory) (subject : Subject) (result : Bool × Registry) :
    d.withoutMemo.regrant subject result =
      ((d.regrant subject result).1, (d.regrant subject result).2.withoutMemo) := by
  unfold regrant withoutMemo forget forgetAll
  simp

theorem fresh_grant {d : Directory} (fresh : d.Fresh) {subject : Subject} {grant : Grant}
    {result : Bool × Directory} (h : d.grant subject grant = .ok result) : result.2.Fresh := by
  unfold Directory.grant at h
  cases granted : d.registry.grant subject grant with
  | error fault =>
    rw [granted] at h
    cases h
  | ok regranted =>
    rw [granted] at h
    cases h
    exact fresh_regrant fresh (Registry.regrants_grant granted)

theorem withoutMemo_grant (d : Directory) (subject : Subject) (grant : Grant) :
    d.withoutMemo.grant subject grant =
      (d.grant subject grant).map fun result => (result.1, result.2.withoutMemo) := by
  unfold Directory.grant
  rw [registry_withoutMemo]
  cases d.registry.grant subject grant with
  | error fault => rfl
  | ok result => exact congrArg Except.ok (d.withoutMemo_regrant subject result)

theorem fresh_revoke {d : Directory} (fresh : d.Fresh) (subject : Subject) (kind : GrantKind)
    (name : String) : (d.revoke subject kind name).2.Fresh :=
  fresh_regrant fresh (d.registry.regrants_revoke subject kind name)

theorem withoutMemo_revoke (d : Directory) (subject : Subject) (kind : GrantKind)
    (name : String) :
    d.withoutMemo.revoke subject kind name =
      ((d.revoke subject kind name).1, (d.revoke subject kind name).2.withoutMemo) :=
  d.withoutMemo_regrant subject (d.registry.revoke subject kind name)

/-! ## Resolution -/

theorem policiesFor_withoutMemo (d : Directory) (subject : Subject) :
    d.withoutMemo.policiesFor subject = (d.registry.policiesFor subject, d.withoutMemo) := rfl

/-- **A fresh directory answers as its registry does**, and is fresh afterwards. -/
theorem policiesFor_of_fresh {d : Directory} (fresh : d.Fresh) (subject : Subject) :
    (d.policiesFor subject).1 = d.registry.policiesFor subject ∧
      (d.policiesFor subject).2.Fresh := by
  unfold policiesFor
  cases had : d.memo with
  | none => exact ⟨rfl, fresh⟩
  | some memo =>
    -- Looking a subject up counts as a use, found or not.
    have used : Fresh { d with memo := some (memo.touch subject) } := by
      intro later kept other policies served
      cases kept
      rw [Memo.get?_touch] at served
      exact fresh memo had other policies served
    cases served : memo.get? subject with
    | some found =>
      simp only [Memo.fetch, served]
      exact ⟨fresh memo had subject found served, used⟩
    | none =>
      simp only [Memo.fetch, served]
      refine ⟨trivial, ?_⟩
      intro later kept other policies served
      cases kept
      rcases Memo.get?_of_get?_insert served with ⟨rfl, resolved⟩ | before
      · exact resolved.symm
      · exact used _ rfl other policies before

/-- **Who asks twice is told the same**, whatever the memo holds. -/
theorem policiesFor_again (d : Directory) (subject : Subject) :
    ((d.policiesFor subject).2.policiesFor subject).1 = (d.policiesFor subject).1 := by
  cases had : d.memo with
  | none => simp [policiesFor, had]
  | some memo =>
    cases served : memo.get? subject with
    | some found => simp [policiesFor, had, Memo.fetch, served]
    | none =>
      -- The first question has put in what the second one finds.
      have kept := (memo.touch subject).get?_insert_self subject (d.registry.policiesFor subject)
      rw [Memo.mark_touch] at kept
      simp [policiesFor, had, Memo.fetch, served, kept]

theorem withoutMemo_policiesFor (d : Directory) (subject : Subject) :
    (d.policiesFor subject).2.withoutMemo = d.withoutMemo := by
  unfold withoutMemo
  rw [registry_policiesFor]

end Gatehouse.Directory
