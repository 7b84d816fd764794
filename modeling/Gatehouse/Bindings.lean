import Gatehouse.NameMap

/-!
# Bindings

Matching an object path gives values to the names that the pattern captures, and
a grant can fix some of those values beforehand.  Either way the result is a
finite map from capture names to path segments.

A name is bound once.  `bind?` is the only way in which matching extends
bindings: a name that is free takes the value, a bound name accepts the value
that it has and refuses any other.  `merge?` does the same with all entries of
another map, so it succeeds exactly when the two maps agree on the names that
they share.
-/

namespace Gatehouse

/-- Values of capture names. -/
abbrev Bindings := NameMap String

namespace Bindings

/-- Give `name` the value `value`, unless it already has another one. -/
def bind? (bindings : Bindings) (name value : String) : Option Bindings :=
  match bindings.get? name with
  | none => some (bindings.insert name value)
  | some bound => if bound = value then some bindings else none

theorem bind?_of_free {bindings : Bindings} {name : String} (h : bindings.get? name = none)
    (value : String) : bindings.bind? name value = some (bindings.insert name value) := by
  simp [bind?, h]

theorem bind?_of_bound {bindings : Bindings} {name bound : String}
    (h : bindings.get? name = some bound) (value : String) :
    bindings.bind? name value = if bound = value then some bindings else none := by
  simp [bind?, h]

/-- Bind every entry of a list, from left to right. -/
def bindAll? (bindings : Bindings) (entries : List (String × String)) : Option Bindings :=
  entries.foldlM (fun bound e => bound.bind? e.1 e.2) bindings

@[simp] theorem bindAll?_nil (bindings : Bindings) : bindings.bindAll? [] = some bindings := rfl

theorem bindAll?_cons (bindings : Bindings) (e : String × String) (es : List (String × String)) :
    bindings.bindAll? (e :: es) = (bindings.bind? e.1 e.2).bind (·.bindAll? es) := rfl

/-- The bindings of both maps together, unless they disagree on a name. -/
def merge? (bindings more : Bindings) : Option Bindings := bindings.bindAll? more.entries

/-- The bindings of all maps of a list together, unless some of them disagree. -/
def mergeAll? (bindings : Bindings) (others : List Bindings) : Option Bindings :=
  others.foldlM merge? bindings

theorem mergeAll?_cons (bindings more : Bindings) (others : List Bindings) :
    bindings.mergeAll? (more :: others) = (bindings.merge? more).bind (·.mergeAll? others) := rfl

end Bindings

end Gatehouse
