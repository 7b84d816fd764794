import Gatehouse.Pattern.Object
import Gatehouse.Proofs.Bindings.Inclusion

/-!
# What a match tells

A pattern that describes a path gives bindings.  This module says what can be read off them:
what had been bound beforehand still is (`within_of_bindingsWith?`), and at every position
where the pattern has a capture the path has the value of that capture
(`part_of_bindingsWith?`).

It also compares two matches of the same path.  Whatever matches with some names bound
beforehand matches with fewer of them as well, and with fewer bindings in the end
(`bindingsWith?_mono`): to fix a name is to demand something more.
-/

namespace Gatehouse

open Bindings (Within)

namespace ObjectSegment

variable {segment : ObjectSegment} {part : String} {bindings more : Bindings}

theorem within_of_bind? (h : segment.bind? part bindings = some more) : Within bindings more := by
  cases segment with
  | literal text =>
    simp only [bind?] at h
    split at h
    · cases h
      exact .refl _
    · cases h
  | any =>
    simp only [bind?] at h
    split at h
    · cases h
    · cases h
      exact .refl _
  | capture name =>
    simp only [bind?] at h
    split at h
    · cases h
    · exact Bindings.within_of_bind? h

theorem get?_of_bind? {name : String} (h : segment.bind? part bindings = some more)
    (captures : segment.captureName? = some name) : more.get? name = some part := by
  cases segment with
  | literal text => cases captures
  | any => cases captures
  | capture captured =>
    cases captures
    simp only [bind?] at h
    split at h
    · cases h
    · exact Bindings.get?_of_bind? h

theorem bind?_mono {few : Bindings} (within : Within few bindings)
    (h : segment.bind? part bindings = some more) :
    ∃ fewer, segment.bind? part few = some fewer ∧ Within fewer more := by
  cases segment with
  | literal text =>
    simp only [bind?] at h ⊢
    split at h
    · rename_i same
      cases h
      exact ⟨few, if_pos same, within⟩
    · cases h
  | any =>
    simp only [bind?] at h ⊢
    split at h
    · cases h
    · rename_i nonempty
      cases h
      exact ⟨few, if_neg nonempty, within⟩
  | capture name =>
    simp only [bind?] at h ⊢
    split at h
    · cases h
    · rename_i nonempty
      rw [if_neg nonempty]
      exact Bindings.bind?_mono within h

end ObjectSegment

namespace ObjectPattern

/-! ## Position by position -/

/-- **The pattern captures a name at a position.** -/
def CapturesAt (pattern : ObjectPattern) (name : String) (position : Nat) : Prop :=
  pattern.segments[position]?.bind (·.captureName?) = some name

/-- A name that is captured is captured somewhere. -/
theorem exists_capturesAt {pattern : ObjectPattern} {name : String}
    (h : name ∈ pattern.captureNames) : ∃ position, pattern.CapturesAt name position := by
  unfold captureNames at h
  rw [List.mem_eraseDups, List.mem_filterMap] at h
  obtain ⟨segment, mem, captures⟩ := h
  obtain ⟨position, stands⟩ := List.mem_iff_getElem?.mp mem
  exact ⟨position, by rw [CapturesAt, stands]; exact captures⟩

variable {hasRest : Bool} {segments : List ObjectSegment} {parts : List String}
  {bindings more : Bindings}

/-- What is left for the closing wildcard binds nothing. -/
theorem eq_of_matchParts_nil (h : matchParts hasRest [] parts bindings = some more) :
    more = bindings := by
  rw [matchParts_nil] at h
  split at h
  · split at h
    · exact (Option.some.inj h).symm
    · cases h
  · split at h
    · exact (Option.some.inj h).symm
    · cases h

theorem within_of_matchParts (h : matchParts hasRest segments parts bindings = some more) :
    Within bindings more := by
  induction segments generalizing parts bindings with
  | nil =>
    rw [eq_of_matchParts_nil h]
    exact .refl bindings
  | cons segment segments ih =>
    cases parts with
    | nil => cases h
    | cons part parts =>
      rw [matchParts_cons_cons, Option.bind_eq_some_iff] at h
      obtain ⟨next, bound, rest⟩ := h
      exact (ObjectSegment.within_of_bind? bound).trans (ih rest)

/-- At the position of a capture stands the value of its name. -/
theorem part_of_matchParts (h : matchParts hasRest segments parts bindings = some more)
    {name : String} {position : Nat}
    (captures : segments[position]?.bind (·.captureName?) = some name) :
    ∃ part, parts[position]? = some part ∧ more.get? name = some part := by
  induction segments generalizing parts bindings position with
  | nil => cases captures
  | cons segment segments ih =>
    cases parts with
    | nil => cases h
    | cons part parts =>
      rw [matchParts_cons_cons, Option.bind_eq_some_iff] at h
      obtain ⟨next, bound, rest⟩ := h
      cases position with
      | zero =>
        -- The segments behind this one do not change the value of the name.
        have here : next.get? name = some part := ObjectSegment.get?_of_bind? bound captures
        exact ⟨part, rfl, within_of_matchParts rest name part here⟩
      | succ position => exact ih rest captures

theorem matchParts_mono {few : Bindings} (within : Within few bindings)
    (h : matchParts hasRest segments parts bindings = some more) :
    ∃ fewer, matchParts hasRest segments parts few = some fewer ∧ Within fewer more := by
  induction segments generalizing parts few bindings with
  | nil =>
    obtain rfl := eq_of_matchParts_nil h
    rw [matchParts_nil] at h ⊢
    refine ⟨few, ?_, within⟩
    split at h
    · rename_i rest
      split at h
      · rename_i left
        rw [if_pos rest, if_pos left]
      · cases h
    · rename_i noRest
      split at h
      · rename_i none
        rw [if_neg noRest, if_pos none]
      · cases h
  | cons segment segments ih =>
    cases parts with
    | nil => cases h
    | cons part parts =>
      rw [matchParts_cons_cons, Option.bind_eq_some_iff] at h
      obtain ⟨next, bound, rest⟩ := h
      obtain ⟨fewerNext, fewerBound, below⟩ := ObjectSegment.bind?_mono within bound
      obtain ⟨fewer, fewerRest, result⟩ := ih below rest
      exact ⟨fewer, by rw [matchParts_cons_cons, fewerBound]; exact fewerRest, result⟩

/-! ## Paths -/

variable {pattern : ObjectPattern} {path : String} {prebound found : Bindings}

/-- **What has been bound beforehand still is.** -/
theorem within_of_bindingsWith? (h : pattern.bindingsWith? path prebound = some found) :
    Within prebound found :=
  within_of_matchParts h

/-- **Where a name is captured the path has its value.** -/
theorem part_of_bindingsWith? (h : pattern.bindingsWith? path prebound = some found)
    {name : String} {position : Nat} (captures : pattern.CapturesAt name position) :
    ∃ part, (Text.parts '/' path)[position]? = some part ∧ found.get? name = some part :=
  part_of_matchParts h captures

/-- **To fix names beforehand is to demand more.** -/
theorem bindingsWith?_mono {few : Bindings} (within : Within few prebound)
    (h : pattern.bindingsWith? path prebound = some found) :
    ∃ fewer, pattern.bindingsWith? path few = some fewer ∧ Within fewer found :=
  matchParts_mono within h

/-- What matches with names bound beforehand matches without. -/
theorem isSome_bindings? (h : pattern.bindingsWith? path prebound = some found) :
    (pattern.bindings? path).isSome := by
  obtain ⟨fewer, plain, -⟩ := bindingsWith?_mono (Bindings.within_empty prebound) h
  rw [bindings?, plain]
  rfl

end ObjectPattern

end Gatehouse
