import Mathlib.Data.List.Forall2

/-!
# The first problem decides

A computation of many steps that stops at the first problem can be described without its steps:
write down the problems of all steps in a row, whether the computation gets so far or not.  It
fails with the first of them, and it succeeds if the row is empty.

`FirstProblem` is this description, together with what is wanted of the result.  Steps one after
the other have their problems one after the other (`FirstProblem.bind`).  So have the items of a
list that is read item by item (`FirstProblem.mapM`), and the steps of a loop, where an invariant
tells what the steps so far have made (`FirstProblem.foldlM`).
-/

namespace Gatehouse

universe u v w

variable {ε : Type u} {σ τ : Type v} {α : Type w}

/-- **The first problem decides**: the computation fails with it, or there is no problem and
the result is as wanted. -/
def FirstProblem (problems : List ε) (Wanted : σ → Prop) : Except ε σ → Prop
  | .error e => problems.head? = some e
  | .ok result => problems = [] ∧ Wanted result

namespace FirstProblem

variable {problems later : List ε} {P : σ → Prop} {R : τ → Prop}

theorem imp {Q : σ → Prop} {r : Except ε σ} (h : FirstProblem problems P r)
    (wanted : ∀ x, P x → Q x) : FirstProblem problems Q r := by
  cases r with
  | error e => exact h
  | ok x => exact ⟨h.1, wanted x h.2⟩

/-- What comes afterwards has its problems afterwards. -/
theorem bind {r : Except ε σ} {f : σ → Except ε τ} (h : FirstProblem problems P r)
    (next : ∀ x, P x → FirstProblem later R (f x)) :
    FirstProblem (problems ++ later) R (r >>= f) := by
  cases r with
  | error e =>
    have first : problems.head? = some e := h
    change (problems ++ later).head? = some e
    rw [List.head?_append, first]
    rfl
  | ok result =>
    obtain ⟨none, wanted⟩ := h
    rw [none, List.nil_append]
    exact next result wanted

/-- What is made of a result has no problems of its own. -/
theorem bind_pure {r : Except ε σ} {f : σ → τ} (h : FirstProblem problems P r)
    (wanted : ∀ x, P x → R (f x)) : FirstProblem problems R (r >>= fun x => pure (f x)) := by
  rw [← List.append_nil problems]
  exact h.bind fun x hx => ⟨rfl, wanted x hx⟩

/-- Problems may be told as others. -/
theorem mapError {δ : Type u} {r : Except ε σ} (h : FirstProblem problems P r) (tell : ε → δ) :
    FirstProblem (problems.map tell) P (r.mapError tell) := by
  cases r with
  | error e =>
    have first : problems.head? = some e := h
    change (problems.map tell).head? = some (tell e)
    rw [List.head?_map, first]
    rfl
  | ok x => exact ⟨by rw [h.1]; rfl, h.2⟩

/-- **A list that is read item by item has the problems of its items.** -/
theorem mapM {read : α → Except ε σ} {problems : α → List ε} {Wanted : α → σ → Prop}
    (each : ∀ x, FirstProblem (problems x) (Wanted x) (read x)) (xs : List α) :
    FirstProblem (xs.flatMap problems) (List.Forall₂ Wanted xs) (xs.mapM read) := by
  induction xs with
  | nil => exact ⟨rfl, .nil⟩
  | cons x xs ih =>
    rw [List.mapM_cons, List.flatMap_cons]
    exact (each x).bind fun y wanted => ih.bind_pure fun ys rest => .cons wanted rest

/-- **A loop has the problems of its steps**, if every step carries the invariant on. -/
theorem foldlM {step : σ → α → Except ε σ} {problems : α → List ε} (Inv : List α → σ → Prop)
    (keeps : ∀ done x s, Inv done s → FirstProblem (problems x) (Inv (done ++ [x])) (step s x))
    (xs : List α) {s : σ} (initial : Inv [] s) :
    FirstProblem (xs.flatMap problems) (Inv xs) (xs.foldlM step s) := by
  -- The invariant speaks of all elements so far, so the induction is over those to come.
  suffices after : ∀ done s, Inv done s →
      FirstProblem (xs.flatMap problems) (Inv (done ++ xs)) (xs.foldlM step s) from
    after [] s initial
  clear initial
  induction xs with
  | nil =>
    intro done s invariant
    rw [List.append_nil]
    exact ⟨rfl, invariant⟩
  | cons x xs ih =>
    intro done s invariant
    rw [List.foldlM_cons, List.flatMap_cons]
    refine (keeps done x s invariant).bind fun next invariant' => ?_
    have rest := ih (done ++ [x]) next invariant'
    rwa [List.append_assoc, List.singleton_append] at rest

/-- There is a result exactly if there is no problem. -/
theorem exists_ok_iff {r : Except ε σ} (h : FirstProblem problems P r) :
    (∃ result, r = .ok result) ↔ problems = [] := by
  cases r with
  | error e =>
    have first : problems.head? = some e := h
    constructor
    · rintro ⟨result, same⟩
      cases same
    · intro none
      rw [none] at first
      cases first
  | ok result => exact ⟨fun _ => h.1, fun _ => ⟨result, rfl⟩⟩

end FirstProblem

end Gatehouse
