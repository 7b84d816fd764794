import Gatehouse.Proofs.Bindings.Union
import Gatehouse.Proofs.Pattern.Matching

/-!
# What a pattern describes

A pattern describes the paths that it spells: give a text that is not empty to each of its
capture names, and read the segments one after the other (`ObjectPattern.Spells`).  Matching
knows nothing of such an assignment.  It goes through path and pattern from the left to the
right, binds a name where it first meets it and compares it afterwards.  That it finds the
assignment, whenever there is one, is what this module shows (`describes_iff_spells`).

### What is load-bearing

A match can be taken apart into two questions that have nothing to do with each other
(`matchParts_eq_some_iff`).  Whether the segments fit the parts of the path is asked without
any bindings (`Fits`).  What the captures would bind is a list of entries (`captured`), and
whether they agree, with each other and with what has been bound beforehand, is the question
whether there is a union.

### By position

The segments and the parts can also be numbered, and a segment be compared with the part at its
position (`walk`).  The comparison of lengths at the beginning then has to make sure that there
is a part at every position that is looked at.  It does, and the walk ends as the match does
(`walk_eq`).
-/

namespace Gatehouse

open Bindings (Given)

/-! ## Segments -/

namespace ObjectSegment

/-- The segment can stand for the part, as far as no name is concerned. -/
def Accepts : ObjectSegment → String → Prop
  | literal t, part => part = t.text
  | any, part => part ≠ ""
  | capture _, part => part ≠ ""

/-- What the segment binds where it stands for the part. -/
def entries (segment : ObjectSegment) (part : String) : List (String × String) :=
  (segment.captureName?.map (·, part)).toList

theorem mem_entries_iff {segment : ObjectSegment} {part name value : String} :
    (name, value) ∈ segment.entries part ↔ segment.captureName? = some name ∧ part = value := by
  cases captures : segment.captureName? with
  | none => simp [entries, captures]
  | some captured => simp [entries, captures, eq_comm]

/-- **A segment matches** if it can stand for the part and its entry can be bound. -/
theorem bind?_eq_some_iff {segment : ObjectSegment} {part : String} {bindings more : Bindings} :
    segment.bind? part bindings = some more ↔
      segment.Accepts part ∧ bindings.bindAll? (segment.entries part) = some more := by
  cases segment with
  | literal t =>
    unfold bind? Accepts
    simp only [entries, captureName?, Option.map_none, Option.toList_none, Bindings.bindAll?_nil]
    split <;> simp_all
  | any =>
    unfold bind? Accepts
    simp only [entries, captureName?, Option.map_none, Option.toList_none, Bindings.bindAll?_nil]
    split <;> simp_all
  | capture n =>
    have one : bindings.bindAll? [(n.name, part)] = bindings.bind? n.name part := by
      rw [Bindings.bindAll?_cons]
      exact Option.bind_fun_some _
    unfold bind? Accepts
    simp only [entries, captureName?, Option.map_some, Option.toList_some, one]
    split <;> simp_all

end ObjectSegment

namespace ObjectPattern

/-! ## Fitting and capturing -/

/-- What the captures among the segments would bind. -/
def captured : List ObjectSegment → List String → List (String × String)
  | segment :: segments, part :: parts => segment.entries part ++ captured segments parts
  | _, _ => []

/-- **The segments fit the parts**, as far as no name is concerned: there is a part for every
segment, which the segment can stand for, and what is left over is for the closing wildcard. -/
structure Fits (hasRest : Bool) (segments : List ObjectSegment) (parts : List String) : Prop where
  length : if hasRest then segments.length < parts.length else parts.length = segments.length
  accepts : ∀ (position : Nat) (segment : ObjectSegment) (part : String),
    segments[position]? = some segment → parts[position]? = some part → segment.Accepts part
  rest : ∀ part ∈ parts.drop segments.length, part ≠ ""

variable {hasRest : Bool} {segment : ObjectSegment} {segments : List ObjectSegment}
  {part : String} {parts : List String}

theorem mem_captured_iff {name value : String} :
    (name, value) ∈ captured segments parts ↔
      ∃ position : Nat, segments[position]?.bind (·.captureName?) = some name ∧
        parts[position]? = some value := by
  induction segments generalizing parts with
  | nil => simp [captured]
  | cons segment segments ih =>
    cases parts with
    | nil => simp [captured]
    | cons part parts =>
      rw [captured, List.mem_append, ObjectSegment.mem_entries_iff, ih]
      constructor
      · rintro (⟨captures, rfl⟩ | ⟨position, captures, stands⟩)
        · exact ⟨0, captures, rfl⟩
        · exact ⟨position + 1, captures, stands⟩
      · rintro ⟨position, captures, stands⟩
        cases position with
        | zero => exact Or.inl ⟨captures, Option.some.inj stands⟩
        | succ position => exact Or.inr ⟨position, captures, stands⟩

theorem fits_nil :
    Fits hasRest [] parts ↔ if hasRest then parts ≠ [] ∧ "" ∉ parts else parts = [] := by
  constructor
  · rintro ⟨length, -, rest⟩
    cases hasRest with
    | true => exact ⟨List.ne_nil_of_length_pos length, fun mem => rest "" mem rfl⟩
    | false => exact List.length_eq_zero_iff.mp length
  · intro fits
    cases hasRest with
    | true =>
      refine ⟨List.length_pos_iff.mpr fits.1, nofun, ?_⟩
      rintro part mem rfl
      exact fits.2 mem
    | false =>
      cases fits
      exact ⟨rfl, nofun, nofun⟩

theorem not_fits_cons_nil : ¬ Fits hasRest (segment :: segments) [] := by
  intro fits
  have length := fits.length
  cases hasRest <;> simp at length

theorem fits_cons_cons :
    Fits hasRest (segment :: segments) (part :: parts) ↔
      segment.Accepts part ∧ Fits hasRest segments parts := by
  constructor
  · rintro ⟨length, accepts, rest⟩
    refine ⟨accepts 0 segment part rfl rfl, ?_, fun position => accepts (position + 1), rest⟩
    cases hasRest <;> simpa using length
  · rintro ⟨first, length, accepts, rest⟩
    refine ⟨?_, ?_, rest⟩
    · cases hasRest <;> simpa using length
    · intro position other found stands given
      cases position with
      | zero =>
        cases stands
        cases given
        exact first
      | succ position => exact accepts position other found stands given

/-- **A match is a fit and a union.** -/
theorem matchParts_eq_some_iff {bindings more : Bindings} :
    matchParts hasRest segments parts bindings = some more ↔
      Fits hasRest segments parts ∧ bindings.bindAll? (captured segments parts) = some more := by
  induction segments generalizing parts bindings with
  | nil =>
    rw [matchParts_nil, fits_nil, captured, Bindings.bindAll?_nil]
    · cases hasRest <;> simp
    · nofun
  | cons segment segments ih =>
    cases parts with
    | nil => simp [not_fits_cons_nil]
    | cons part parts =>
      have inTwo : bindings.bindAll? (captured (segment :: segments) (part :: parts)) =
          (bindings.bindAll? (segment.entries part)).bind
            (·.bindAll? (captured segments parts)) := List.foldlM_append
      rw [matchParts_cons_cons, fits_cons_cons, inTwo, Option.bind_eq_some_iff,
        Option.bind_eq_some_iff]
      simp only [ObjectSegment.bind?_eq_some_iff, ih]
      constructor
      · rintro ⟨next, ⟨accepts, bound⟩, fits, rest⟩
        exact ⟨⟨accepts, fits⟩, next, bound, rest⟩
      · rintro ⟨⟨accepts, fits⟩, next, bound, rest⟩
        exact ⟨next, ⟨accepts, bound⟩, fits, rest⟩

/-- The entries that a pattern would bind on a path. -/
def capturedOn (pattern : ObjectPattern) (path : String) : List (String × String) :=
  captured pattern.segments (Text.parts '/' path)

/-- The pattern fits the path, as far as no name is concerned. -/
def FitsPath (pattern : ObjectPattern) (path : String) : Prop :=
  Fits pattern.hasRest pattern.segments (Text.parts '/' path)

variable {pattern : ObjectPattern} {path : String}

theorem mem_capturedOn_iff {name value : String} :
    (name, value) ∈ pattern.capturedOn path ↔
      ∃ position, pattern.CapturesAt name position ∧
        (Text.parts '/' path)[position]? = some value :=
  mem_captured_iff

/-- **A pattern describes a path** if it fits and its entries have a union with what is bound
beforehand, which is the result. -/
theorem bindingsWith?_eq_some_iff {prebound found : Bindings} :
    pattern.bindingsWith? path prebound = some found ↔
      pattern.FitsPath path ∧ ∀ name value, found.get? name = some value ↔
        Given prebound (pattern.capturedOn path) name value := by
  unfold bindingsWith?
  rw [matchParts_eq_some_iff, Bindings.bindAll?_eq_some_iff]
  rfl

/-- Without bindings, the entries of the captures are all that is found. -/
theorem bindings?_eq_some_iff {found : Bindings} :
    pattern.bindings? path = some found ↔
      pattern.FitsPath path ∧ ∀ name value, found.get? name = some value ↔
        (name, value) ∈ pattern.capturedOn path := by
  unfold bindings?
  rw [bindingsWith?_eq_some_iff]
  simp only [Given, NameMap.get?_empty, reduceCtorEq, false_or]

/-- A pattern that fits a path matches it, if no name is captured with two values. -/
theorem exists_bindings? (fits : pattern.FitsPath path)
    (consistent : ∀ name x y, (name, x) ∈ pattern.capturedOn path →
      (name, y) ∈ pattern.capturedOn path → x = y) :
    ∃ found, pattern.bindings? path = some found := by
  have captures : ∀ name value, Given .empty (pattern.capturedOn path) name value →
      (name, value) ∈ pattern.capturedOn path := by
    rintro name value (none | mem)
    · cases none
    · exact mem
  obtain ⟨union, bound⟩ := Bindings.exists_bindAll? fun name x y givenX givenY =>
    consistent name x y (captures name x givenX) (captures name y givenY)
  exact ⟨union, matchParts_eq_some_iff.mpr ⟨fits, bound⟩⟩

/-! ## Assignments -/

/-- **A path can have so many parts**: as many as the pattern has, or more of them if the
pattern ends in the wildcard for all that are left. -/
def AdmitsLength (pattern : ObjectPattern) (count : Nat) : Prop :=
  if pattern.hasRest then pattern.spellings.length ≤ count else count = pattern.spellings.length

instance decidableAdmitsLength (pattern : ObjectPattern) (count : Nat) :
    Decidable (pattern.AdmitsLength count) :=
  inferInstanceAs (Decidable (if pattern.hasRest then _ else _))

/-- The closing wildcard counts as one more segment. -/
theorem length_spellings (pattern : ObjectPattern) :
    pattern.spellings.length = pattern.segments.length + if pattern.hasRest then 1 else 0 := by
  unfold spellings
  cases pattern.hasRest <;> simp

theorem admitsLength_iff (pattern : ObjectPattern) (count : Nat) :
    pattern.AdmitsLength count ↔
      if pattern.hasRest then pattern.segments.length < count
      else count = pattern.segments.length := by
  unfold AdmitsLength
  rw [length_spellings]
  cases pattern.hasRest with
  | true => exact Nat.succ_le_iff
  | false => exact Iff.rfl

/-- **The pattern spells the path** if its captures have these values, none of which is empty.
The path has as many parts as it can have.  Literals stand for themselves, the wildcard for
one part stands for any that is not empty, and a capture stands for its value wherever it is
written. -/
structure Spells (pattern : ObjectPattern) (values : String → String) (path : String) : Prop where
  nonempty : ∀ name ∈ pattern.captureNames, values name ≠ ""
  length : pattern.AdmitsLength (Text.parts '/' path).length
  literal : ∀ (position : Nat) (t : Literal '/'), pattern.segments[position]? = some (.literal t) →
    (Text.parts '/' path)[position]? = some t.text
  any : ∀ position : Nat, pattern.segments[position]? = some .any →
    ∃ part, (Text.parts '/' path)[position]? = some part ∧ part ≠ ""
  capture : ∀ name position, pattern.CapturesAt name position →
    (Text.parts '/' path)[position]? = some (values name)
  rest : ∀ part ∈ (Text.parts '/' path).drop pattern.segments.length, part ≠ ""

theorem mem_captureNames_iff {name : String} :
    name ∈ pattern.captureNames ↔ ∃ position, pattern.CapturesAt name position := by
  refine ⟨exists_capturesAt, ?_⟩
  rintro ⟨position, captures⟩
  obtain ⟨segment, stands, captures⟩ := Option.bind_eq_some_iff.mp captures
  unfold captureNames
  rw [List.mem_eraseDups, List.mem_filterMap]
  exact ⟨segment, List.mem_of_getElem? stands, captures⟩

/-- There is a part for every segment of a pattern that fits. -/
theorem FitsPath.exists_part (fits : pattern.FitsPath path) {position : Nat}
    {segment : ObjectSegment} (stands : pattern.segments[position]? = some segment) :
    ∃ part, (Text.parts '/' path)[position]? = some part ∧ segment.Accepts part := by
  have inside : position < pattern.segments.length :=
    (List.getElem?_eq_some_iff.mp stands).choose
  have length := fits.length
  have within : position < (Text.parts '/' path).length := by
    split at length <;> omega
  exact ⟨_, List.getElem?_eq_getElem within, fits.accepts position segment _ stands
    (List.getElem?_eq_getElem within)⟩

/-- A capture that fits has an entry, which is not empty. -/
theorem FitsPath.exists_entry (fits : pattern.FitsPath path) {name : String} {position : Nat}
    (captures : pattern.CapturesAt name position) :
    ∃ part, (Text.parts '/' path)[position]? = some part ∧ part ≠ "" ∧
      (name, part) ∈ pattern.capturedOn path := by
  obtain ⟨segment, stands, named⟩ := Option.bind_eq_some_iff.mp captures
  obtain ⟨part, here, accepts⟩ := fits.exists_part stands
  have nonempty : part ≠ "" := by
    cases segment with
    | capture n => exact accepts
    | literal t => cases named
    | any => cases named
  exact ⟨part, here, nonempty, mem_capturedOn_iff.mpr ⟨position, captures, here⟩⟩

/-- What a pattern spells it fits. -/
theorem Spells.fitsPath {values : String → String} (spells : pattern.Spells values path) :
    pattern.FitsPath path where
  length := (pattern.admitsLength_iff _).mp spells.length
  accepts := by
    intro position segment part stands here
    cases segment with
    | literal t =>
      rw [spells.literal position t stands] at here
      exact (Option.some.inj here).symm
    | any =>
      obtain ⟨other, there, nonempty⟩ := spells.any position stands
      rw [there] at here
      exact Option.some.inj here ▸ nonempty
    | capture n =>
      have captures : pattern.CapturesAt n.name position := by
        rw [CapturesAt, stands]
        rfl
      rw [spells.capture n.name position captures] at here
      exact Option.some.inj here ▸
        spells.nonempty n.name (mem_captureNames_iff.mpr ⟨position, captures⟩)
  rest := spells.rest

/-- The entries of a path that is spelled are those of the assignment. -/
theorem Spells.mem_capturedOn_iff {values : String → String}
    (spells : pattern.Spells values path) {name value : String} :
    (name, value) ∈ pattern.capturedOn path ↔
      name ∈ pattern.captureNames ∧ values name = value := by
  rw [ObjectPattern.mem_capturedOn_iff, mem_captureNames_iff]
  constructor
  · rintro ⟨position, captures, here⟩
    rw [spells.capture name position captures] at here
    exact ⟨⟨position, captures⟩, Option.some.inj here⟩
  · rintro ⟨⟨position, captures⟩, rfl⟩
    exact ⟨position, captures, spells.capture name position captures⟩

/-- **A match finds an assignment** under which the pattern spells the path. -/
theorem spells_of_bindings? {found : Bindings} (h : pattern.bindings? path = some found) :
    ∃ values, pattern.Spells values path ∧
      ∀ name, found.get? name =
        if name ∈ pattern.captureNames then some (values name) else none := by
  obtain ⟨fits, entry⟩ := bindings?_eq_some_iff.mp h
  have bound : ∀ name position, pattern.CapturesAt name position →
      ∃ part, (Text.parts '/' path)[position]? = some part ∧ part ≠ "" ∧
        found.get? name = some part := by
    intro name position captures
    obtain ⟨part, here, nonempty, mem⟩ := fits.exists_entry captures
    exact ⟨part, here, nonempty, (entry name part).mpr mem⟩
  obtain ⟨values, assigned⟩ : ∃ values : String → String,
      ∀ name part, found.get? name = some part → values name = part :=
    ⟨fun name => (found.get? name).getD "", fun name part value => by simp [value]⟩
  refine ⟨values, ⟨?_, ?_, ?_, ?_, ?_, fits.rest⟩, ?_⟩
  · intro name mem
    obtain ⟨position, captures⟩ := mem_captureNames_iff.mp mem
    obtain ⟨part, -, nonempty, value⟩ := bound name position captures
    rw [assigned name part value]
    exact nonempty
  · exact (pattern.admitsLength_iff _).mpr fits.length
  · intro position t stands
    obtain ⟨part, here, accepts⟩ := fits.exists_part stands
    exact here.trans (congrArg some accepts)
  · intro position stands
    exact fits.exists_part stands
  · intro name position captures
    obtain ⟨part, here, -, value⟩ := bound name position captures
    rw [here, assigned name part value]
  · intro name
    split
    · rename_i mem
      obtain ⟨position, captures⟩ := mem_captureNames_iff.mp mem
      obtain ⟨part, -, -, value⟩ := bound name position captures
      rw [value, assigned name part value]
    · rename_i notMem
      rw [Option.eq_none_iff_forall_ne_some]
      intro value h
      obtain ⟨position, captures, -⟩ := mem_capturedOn_iff.mp ((entry name value).mp h)
      exact notMem (mem_captureNames_iff.mpr ⟨position, captures⟩)

/-- **What a pattern spells it matches**, with the values of the assignment. -/
theorem bindings?_of_spells {values : String → String} (spells : pattern.Spells values path) :
    ∃ found, pattern.bindings? path = some found := by
  refine exists_bindings? spells.fitsPath fun name x y memX memY => ?_
  exact (spells.mem_capturedOn_iff.mp memX).2.symm.trans (spells.mem_capturedOn_iff.mp memY).2

/-! ## By position -/

/-- The part at a position.  To look behind the last one is an error. -/
def partAt (parts : List String) (position : Nat) : Except Nat String :=
  match parts[position]? with
  | none => .error position
  | some part => .ok part

/-- The parts from a position on, which is not behind the end. -/
def partsFrom (parts : List String) (position : Nat) : Except Nat (List String) :=
  if position ≤ parts.length then .ok (parts.drop position) else .error position

/-- Compare the segments with the parts at their positions, the first of which is given. -/
def walkFrom (parts : List String) (hasRest : Bool) :
    Nat → List ObjectSegment → Bindings → Except Nat (Option Bindings)
  | position, [], bindings =>
    if hasRest then do
      let left ← partsFrom parts position
      return if "" ∈ left then none else some bindings
    else return some bindings
  | position, segment :: segments, bindings => do
    let part ← partAt parts position
    match segment.bind? part bindings with
    | none => return none
    | some next => walkFrom parts hasRest (position + 1) segments next

/-- **Match by positions**: compare the lengths, and then walk.  The error is a position at
which the path has no part. -/
def walk (pattern : ObjectPattern) (path : String) (prebound : Bindings) :
    Except Nat (Option Bindings) :=
  let parts := Text.parts '/' path
  if pattern.AdmitsLength parts.length then
    walkFrom parts pattern.hasRest 0 pattern.segments prebound
  else .ok none

/-- At a position of the path the walk goes on from segment to segment. -/
theorem walkFrom_cons {position : Nat} (inside : position < parts.length) (bindings : Bindings) :
    walkFrom parts hasRest position (segment :: segments) bindings =
      match segment.bind? parts[position] bindings with
      | none => .ok none
      | some next => walkFrom parts hasRest (position + 1) segments next := by
  have here : partAt parts position = .ok parts[position] := by
    rw [partAt, List.getElem?_eq_getElem inside]
  rw [walkFrom, here]
  rfl

/-- **Where the lengths are right the walk stays within the path.**  The induction is on the
segments, with the position that goes with the first of them. -/
theorem walkFrom_eq {position : Nat} (bindings : Bindings)
    (length : if hasRest then position + segments.length < parts.length
      else parts.length = position + segments.length) :
    walkFrom parts hasRest position segments bindings =
      .ok (matchParts hasRest segments (parts.drop position) bindings) := by
  induction segments generalizing position bindings with
  | nil =>
    rw [walkFrom, matchParts_nil]
    cases hasRest with
    | true =>
      have inside : position < parts.length := by simpa using length
      have some : parts.drop position ≠ [] := by simpa using inside
      have left : partsFrom parts position = .ok (parts.drop position) :=
        if_pos (Nat.le_of_lt inside)
      rw [if_pos rfl, if_pos rfl, left]
      by_cases empty : "" ∈ parts.drop position
      · rw [if_neg fun both => both.2 empty]
        exact congrArg Except.ok (if_pos empty)
      · rw [if_pos ⟨some, empty⟩]
        exact congrArg Except.ok (if_neg empty)
    | false =>
      have beyond : parts.drop position = [] := by
        rw [List.drop_eq_nil_iff]
        exact Nat.le_of_eq (by simpa using length)
      rw [beyond]
      rfl
  | cons segment segments ih =>
    have inside : position < parts.length := by
      rw [List.length_cons] at length
      split at length <;> omega
    have next : if hasRest then (position + 1) + segments.length < parts.length
        else parts.length = (position + 1) + segments.length := by
      rw [List.length_cons] at length
      split at length <;> simp_all <;> omega
    rw [walkFrom_cons inside, List.drop_eq_getElem_cons inside, matchParts_cons_cons]
    cases segment.bind? parts[position] bindings with
    | none => rfl
    | some more => exact ih more next

/-- A pattern that does not have the right length for a path does not match it. -/
theorem matchParts_eq_none {bindings : Bindings}
    (length : ¬ if hasRest then segments.length < parts.length
      else parts.length = segments.length) :
    matchParts hasRest segments parts bindings = none := by
  rw [Option.eq_none_iff_forall_ne_some]
  intro more h
  exact length (matchParts_eq_some_iff.mp h).1.length

/-- **The walk never leaves the path**, and it ends as the match does. -/
theorem walk_eq (pattern : ObjectPattern) (path : String) (prebound : Bindings) :
    pattern.walk path prebound = .ok (pattern.bindingsWith? path prebound) := by
  unfold walk bindingsWith?
  dsimp only
  by_cases length : pattern.AdmitsLength (Text.parts '/' path).length
  · have fits : if pattern.hasRest then 0 + pattern.segments.length < (Text.parts '/' path).length
        else (Text.parts '/' path).length = 0 + pattern.segments.length := by
      rw [Nat.zero_add]
      exact (pattern.admitsLength_iff _).mp length
    rw [if_pos length, walkFrom_eq prebound fits]
    rfl
  · rw [if_neg length, matchParts_eq_none]
    intro fits
    exact length ((pattern.admitsLength_iff _).mpr fits)

/-- **A pattern describes the paths that it spells.**  It matches a path exactly if there are
texts for its captures, none of them empty, under which it spells the path.  The bindings are
this assignment: they bind the names of the captures, and no others, to these texts.  And to
find them position by position never leads to a position at which the path has no part,
whatever has been bound beforehand. -/
theorem describes_iff_spells (pattern : ObjectPattern) (path : String) :
    ((pattern.bindings? path).isSome ↔ ∃ values, pattern.Spells values path) ∧
    (∀ found, pattern.bindings? path = some found ↔
      ∃ values, pattern.Spells values path ∧
        ∀ name, found.get? name =
          if name ∈ pattern.captureNames then some (values name) else none) ∧
    ∀ prebound, pattern.walk path prebound = .ok (pattern.bindingsWith? path prebound) := by
  refine ⟨?_, ?_, pattern.walk_eq path⟩
  · rw [Option.isSome_iff_exists]
    constructor
    · rintro ⟨found, matched⟩
      obtain ⟨values, spells, -⟩ := spells_of_bindings? matched
      exact ⟨values, spells⟩
    · rintro ⟨values, spells⟩
      exact bindings?_of_spells spells
  · intro found
    constructor
    · exact spells_of_bindings?
    · rintro ⟨values, spells, assigned⟩
      refine bindings?_eq_some_iff.mpr ⟨spells.fitsPath, fun name value => ?_⟩
      rw [assigned, spells.mem_capturedOn_iff]
      split <;> simp_all

end ObjectPattern

end Gatehouse
