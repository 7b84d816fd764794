import Gatehouse.Bindings
import Gatehouse.Pattern.Basic
import Gatehouse.Text

/-!
# Object patterns

Objects are addressed by paths, such as `organization/acme/project/p1`, and a
pattern describes a set of paths segment by segment.  Besides literal segments
and the wildcard for one segment, a pattern can capture a segment under a name,
and it can end in a wildcard for all segments that are left, at least one.

Two choices carry the theory of this module.

* The closing wildcard is a field of the pattern, `hasRest`, and no segment.  So
  it can stand nowhere but at the end, and `segments` are exactly the positions
  that are compared one to one.
* Matching threads the bindings from the left to the right, starting with the
  bindings that are fixed beforehand.  A name captured twice, or captured and
  fixed, has to agree with itself.
-/

namespace Gatehouse

/-- One segment of an object pattern. -/
inductive ObjectSegment where
  /-- The segment of the path has to be this text. -/
  | literal (text : Literal '/')
  /-- The segment of the path can be any text that is not empty. -/
  | any
  /-- The segment of the path is not empty and becomes the value of a name. -/
  | capture (name : CaptureName)
  deriving DecidableEq

namespace ObjectSegment

/-- How the segment is written. -/
def text : ObjectSegment → String
  | literal t => t.text
  | any => "*"
  | capture n => "\x7b" ++ n.name ++ "\x7d"

/-- The name that the segment captures. -/
def captureName? : ObjectSegment → Option String
  | capture n => some n.name
  | _ => none

/-- The text before a closing brace at the very end. -/
def beforeBrace? (cs : List Char) : Option String :=
  if cs.getLast? = some '\x7d' then some (String.ofList cs.dropLast) else none

/-- Read one segment. -/
def read (part : String) : Except PatternFault ObjectSegment :=
  if part = "" then .error .emptySegment
  else if part = "*" then .ok .any
  else
    match part.toList with
    | '\x7b' :: inner =>
      match beforeBrace? inner with
      | none => .error .unterminatedCapture
      | some name =>
        if h : isCaptureName name = true then .ok (.capture ⟨name, h⟩)
        else .error (.captureName name)
    | _ =>
      if h : isPlain '/' part = true then .ok (.literal ⟨part, h⟩)
      else .error (.wildcardInLiteral part)

/-- Match one segment of a path, extending the bindings. -/
def bind? (segment : ObjectSegment) (part : String) (bindings : Bindings) : Option Bindings :=
  match segment with
  | literal t => if part = t.text then some bindings else none
  | any => if part = "" then none else some bindings
  | capture n => if part = "" then none else bindings.bind? n.name part

end ObjectSegment

/-- A pattern for object paths. -/
structure ObjectPattern where
  /-- The segments that are compared one to one. -/
  segments : List ObjectSegment
  /-- The pattern ends in the wildcard for one or more further segments. -/
  hasRest : Bool
  nonempty : segments ≠ [] ∨ hasRest = true
  deriving DecidableEq

namespace ObjectPattern

/-- Read the segments one by one; the first fault decides. -/
def readParts : List String → Except PatternFault (List ObjectSegment × Bool)
  | [] => .ok ([], false)
  | part :: rest =>
    if part = "**" then
      if rest = [] then .ok ([], true) else .error .restNotLast
    else
      match ObjectSegment.read part with
      | .error fault => .error fault
      | .ok segment =>
        match readParts rest with
        | .error fault => .error fault
        | .ok (segments, hasRest) => .ok (segment :: segments, hasRest)

theorem nonempty_of_readParts {parts : List String} {segments : List ObjectSegment}
    {hasRest : Bool} (ne : parts ≠ []) (h : readParts parts = .ok (segments, hasRest)) :
    segments ≠ [] ∨ hasRest = true := by
  cases parts with
  | nil => exact absurd rfl ne
  | cons part rest =>
    simp only [readParts] at h
    split at h
    · split at h
      · cases h
        exact Or.inr rfl
      · cases h
    · split at h
      · cases h
      · split at h
        · cases h
        · cases h
          exact Or.inl (by simp)

/-- Read a pattern. -/
def parse (text : String) : Except PatternError ObjectPattern :=
  if text = "" then .error (.object text .emptyPattern)
  else
    match h : readParts (Text.parts '/' text) with
    | .error fault => .error (.object text fault)
    | .ok (segments, hasRest) =>
      .ok ⟨segments, hasRest, nonempty_of_readParts (Text.parts_ne_nil _ _) h⟩

/-- The spellings of the segments, the closing wildcard included. -/
def spellings (pattern : ObjectPattern) : List String :=
  pattern.segments.map (·.text) ++ if pattern.hasRest then ["**"] else []

/-- The spelling of the pattern. -/
def text (pattern : ObjectPattern) : String := Text.join '/' pattern.spellings

/-- The names that the pattern captures, each at its first appearance. -/
def captureNames (pattern : ObjectPattern) : List String :=
  (pattern.segments.filterMap (·.captureName?)).eraseDups

/-- The pattern has the same answer for many paths: a wildcard stands in it. -/
def hasWildcard (pattern : ObjectPattern) : Bool :=
  pattern.hasRest || pattern.segments.any (· == .any)

/-- Match the segments of a path one to one; what is left over has to fit the
closing wildcard, or has to be nothing. -/
def matchParts (hasRest : Bool) : List ObjectSegment → List String → Bindings → Option Bindings
  | [], parts, bindings =>
    if hasRest then
      if parts ≠ [] ∧ "" ∉ parts then some bindings else none
    else
      if parts = [] then some bindings else none
  | _ :: _, [], _ => none
  | segment :: segments, part :: parts, bindings =>
    (segment.bind? part bindings).bind (matchParts hasRest segments parts)

@[simp] theorem matchParts_nil (hasRest : Bool) (parts : List String) (bindings : Bindings) :
    matchParts hasRest [] parts bindings =
      if hasRest then if parts ≠ [] ∧ "" ∉ parts then some bindings else none
      else if parts = [] then some bindings else none := rfl

@[simp] theorem matchParts_cons_nil (hasRest : Bool) (segment : ObjectSegment)
    (segments : List ObjectSegment) (bindings : Bindings) :
    matchParts hasRest (segment :: segments) [] bindings = none := rfl

theorem matchParts_cons_cons (hasRest : Bool) (segment : ObjectSegment)
    (segments : List ObjectSegment) (part : String) (parts : List String) (bindings : Bindings) :
    matchParts hasRest (segment :: segments) (part :: parts) bindings =
      (segment.bind? part bindings).bind (matchParts hasRest segments parts) := rfl

/-- The bindings under which the pattern describes the path, with some names bound
beforehand.  The result has all of them, and the captured names. -/
def bindingsWith? (pattern : ObjectPattern) (path : String) (prebound : Bindings) :
    Option Bindings :=
  matchParts pattern.hasRest pattern.segments (Text.parts '/' path) prebound

/-- The bindings under which the pattern describes the path. -/
def bindings? (pattern : ObjectPattern) (path : String) : Option Bindings :=
  pattern.bindingsWith? path .empty

end ObjectPattern

end Gatehouse
