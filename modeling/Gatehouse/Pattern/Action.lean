import Gatehouse.Pattern.Basic
import Gatehouse.Text

/-!
# Action patterns

Actions have dotted names, such as `project.update`, and a pattern fixes some of
the parts and leaves others open.  It has a part for every part of the name:
there is no wildcard for several parts at once.  Task routes use the same
patterns for task names.

A pattern is its list of segments and nothing else.  The text it was read from
is not kept: `ActionPattern.text` spells it again.
-/

namespace Gatehouse

/-- One segment of an action pattern. -/
inductive ActionSegment where
  /-- The part has to be this text. -/
  | literal (text : Literal '.')
  /-- The part can be any text that is not empty. -/
  | any
  deriving DecidableEq

namespace ActionSegment

/-- How the segment is written. -/
def text : ActionSegment → String
  | literal t => t.text
  | any => "*"

/-- Read one segment. -/
def read (part : String) : Except PatternFault ActionSegment :=
  if part = "" then .error .emptySegment
  else if part = "*" then .ok .any
  else if h : isPlain '.' part = true then .ok (.literal ⟨part, h⟩)
  else .error (.unsupportedWildcard part)

/-- The segment accepts this part of a name. -/
def admits : ActionSegment → String → Bool
  | literal t, part => part == t.text
  | any, part => part != ""

end ActionSegment

/-- A pattern for dotted names. -/
structure ActionPattern where
  segments : List ActionSegment
  nonempty : segments ≠ []
  deriving DecidableEq

namespace ActionPattern

/-- Where there are parts there are segments. -/
theorem ne_nil_of_mapM_read {parts : List String} {segments : List ActionSegment}
    (ne : parts ≠ []) (h : parts.mapM ActionSegment.read = .ok segments) : segments ≠ [] := by
  cases parts with
  | nil => exact absurd rfl ne
  | cons part rest =>
    rw [List.mapM_cons] at h
    cases hp : ActionSegment.read part with
    | error fault =>
      rw [hp] at h
      cases h
    | ok segment =>
      cases hr : rest.mapM ActionSegment.read with
      | error fault =>
        rw [hp, hr] at h
        cases h
      | ok others =>
        rw [hp, hr] at h
        cases h
        simp

/-- Read a pattern, segment by segment; the first fault decides. -/
def parse (text : String) : Except PatternError ActionPattern :=
  if text = "" then .error (.action text .emptyPattern)
  else
    match h : (Text.parts '.' text).mapM ActionSegment.read with
    | .error fault => .error (.action text fault)
    | .ok segments => .ok ⟨segments, ne_nil_of_mapM_read (Text.parts_ne_nil _ _) h⟩

/-- The spelling of the pattern. -/
def text (pattern : ActionPattern) : String := Text.join '.' (pattern.segments.map (·.text))

/-- Segments accept parts pairwise, with none left over on either side. -/
def admitAll : List ActionSegment → List String → Bool
  | [], [] => true
  | segment :: segments, part :: parts => segment.admits part && admitAll segments parts
  | _, _ => false

/-- The pattern accepts this name. -/
def admits (pattern : ActionPattern) (name : String) : Bool :=
  admitAll pattern.segments (Text.parts '.' name)

end ActionPattern

end Gatehouse
