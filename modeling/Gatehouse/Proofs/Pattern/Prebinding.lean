import Gatehouse.Proofs.Pattern.Assignments

/-!
# Names that are bound beforehand

A capture whose name is bound beforehand stands for the value that the name has and for no
other.  Matching finds this out at the first place of the capture.  There it compares the part
with the value, where it would have stored the part otherwise, and all that follows is matched
with other bindings in hand.  The outcome is that of doing one thing after the other: match
without any bindings, and put what has been found together with what was bound beforehand
(`bindingsWith?_eq_bind_merge?`).  So names that are bound beforehand only filter the matches,
and only add their own entries.

*What is load-bearing.*  Whether the segments fit the parts does not depend on bindings, and
the entries that the captures make do not either (`bindingsWith?_eq_some_iff`).  The two
matches of a path differ in nothing but what these entries are united with.
-/

namespace Gatehouse

open Bindings (Agree Given)

namespace ObjectPattern

variable {pattern : ObjectPattern} {path : String} {prebound plain : Bindings}

/-- Where a pattern matches without bindings, to match with some is to merge. -/
theorem bindingsWith?_eq_merge? (matched : pattern.bindings? path = some plain) :
    pattern.bindingsWith? path prebound = prebound.merge? plain := by
  obtain ⟨fits, entries⟩ := bindings?_eq_some_iff.mp matched
  apply Option.ext
  intro found
  rw [bindingsWith?_eq_some_iff, Bindings.merge?_eq_some_iff]
  simp only [fits, true_and, entries, Given]

/-- **To bind names beforehand is to merge afterwards.** -/
theorem bindingsWith?_eq_bind_merge? (pattern : ObjectPattern) (path : String)
    (prebound : Bindings) :
    pattern.bindingsWith? path prebound = (pattern.bindings? path).bind prebound.merge? := by
  cases matched : pattern.bindings? path with
  | some plain => exact bindingsWith?_eq_merge? matched
  | none =>
    rw [Option.bind_none, Option.eq_none_iff_forall_ne_some]
    intro found withNames
    have without := isSome_bindings? withNames
    rw [matched] at without
    cases without

/-- **Names that are bound beforehand filter the matches.**  A pattern matches a path with
some names bound beforehand exactly if it matches without them and finds nothing that they
disagree with.  The result is then what is bound beforehand together with what is found, and
has nothing else in it. -/
theorem prebound_names_filter_matches (pattern : ObjectPattern) (path : String)
    (prebound : Bindings) :
    ((pattern.bindingsWith? path prebound).isSome ↔
      ∃ plain, pattern.bindings? path = some plain ∧ Agree prebound plain) ∧
    ∀ found, pattern.bindingsWith? path prebound = some found ↔
      ∃ plain, pattern.bindings? path = some plain ∧ Agree prebound plain ∧
        ∀ name value, found.get? name = some value ↔
          prebound.get? name = some value ∨ plain.get? name = some value := by
  rw [bindingsWith?_eq_bind_merge?]
  constructor
  · rw [Option.isSome_bind, Option.any_eq_true]
    simp only [Bindings.isSome_merge?_iff]
  · intro found
    rw [Option.bind_eq_some_iff]
    constructor
    · rintro ⟨plain, matched, merged⟩
      have agree : Agree prebound plain :=
        Bindings.isSome_merge?_iff.mp (Option.isSome_of_eq_some merged)
      exact ⟨plain, matched, agree, Bindings.merge?_eq_some_iff.mp merged⟩
    · rintro ⟨plain, matched, -, union⟩
      exact ⟨plain, matched, Bindings.merge?_eq_some_iff.mpr union⟩

end ObjectPattern

end Gatehouse
