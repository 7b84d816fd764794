import Gatehouse.Pattern.Object

/-!
# Path templates

A path template spells the object path of an entity out of the values of its fields:
a segment is a text that stands for itself, or the name of a field in braces.

Templates are written like object patterns, without wildcards.  Read as a pattern, a
template describes exactly the paths that it renders, and captures the values that
they were rendered from (`PathTemplate.pattern`).  For that the value of a field has
to be one segment of a path: not empty, and without a slash.
-/

namespace Gatehouse

/-- A segment of a template. -/
inductive TemplateSegment where
  | literal (text : Literal '/')
  | field (name : CaptureName)
  deriving DecidableEq

/-- Why there is no template. -/
inductive TemplateFault where
  /-- The text is no pattern either. -/
  | pattern (error : PatternError)
  /-- The text is a pattern with wildcards. -/
  | wildcard
  deriving DecidableEq, Repr

/-- The wording of a fault. -/
def TemplateFault.reason : TemplateFault → String
  | pattern error => error.message
  | wildcard => "wildcards are not allowed in templates"

/-- Why a template cannot be filled in. -/
inductive FieldFault where
  /-- The field has no value. -/
  | missing (field : String)
  /-- The value is no segment of a path. -/
  | invalid (field value : String)
  deriving DecidableEq, Repr

namespace TemplateSegment

/-- The segment as one of a pattern. -/
def pattern : TemplateSegment → ObjectSegment
  | literal text => .literal text
  | field name => .capture name

/-- The segment of a pattern as one of a template. -/
def ofPattern? : ObjectSegment → Option TemplateSegment
  | .literal text => some (literal text)
  | .capture name => some (field name)
  | .any => none

/-- The field that the segment stands for. -/
def fieldName? : TemplateSegment → Option String
  | literal _ => none
  | field name => some name.name

theorem ofPattern?_eq_some_iff {segment : ObjectSegment} {own : TemplateSegment} :
    ofPattern? segment = some own ↔ segment = own.pattern := by
  cases segment <;> cases own <;> simp [ofPattern?, pattern]

end TemplateSegment

/-- A text that is one segment of some path. -/
def isPathSegment (value : String) : Bool := value != "" && !value.toList.contains '/'

/-- A template for object paths. -/
structure PathTemplate where
  segments : List TemplateSegment
  nonempty : segments ≠ []
  deriving DecidableEq

namespace PathTemplate

/-- The template read as a pattern. -/
def pattern (t : PathTemplate) : ObjectPattern :=
  ⟨t.segments.map (·.pattern), false, Or.inl (by simp [t.nonempty])⟩

/-- The spelling of the template. -/
def text (t : PathTemplate) : String := t.pattern.text

/-- No wildcard among no segments: a pattern without segments has the closing one. -/
theorem ne_nil_of_mapM {p : ObjectPattern} (noRest : p.hasRest = false)
    {segments : List TemplateSegment}
    (h : p.segments.mapM TemplateSegment.ofPattern? = some segments) : segments ≠ [] := by
  rintro rfl
  rcases p.nonempty with ne | rest
  · cases hs : p.segments with
    | nil => exact ne hs
    | cons s ss => simp [hs, List.mapM_cons, bind, Option.bind_eq_some_iff] at h
  · rw [noRest] at rest
    cases rest

/-- The template that a pattern without wildcards is. -/
def ofPattern? (p : ObjectPattern) : Option PathTemplate :=
  if hr : p.hasRest = false then
    match hm : p.segments.mapM TemplateSegment.ofPattern? with
    | none => none
    | some segments => some ⟨segments, ne_nil_of_mapM hr hm⟩
  else none

/-- Read a template. -/
def parse (text : String) : Except TemplateFault PathTemplate :=
  match ObjectPattern.parse text with
  | .error error => .error (.pattern error)
  | .ok pattern =>
    match ofPattern? pattern with
    | none => .error .wildcard
    | some template => .ok template

/-! ## Filling in -/

/-- The value of a field as a segment of a path. -/
def fieldValue (lookup : String → Option String) (field : String) : Except FieldFault String :=
  match lookup field with
  | none => .error (.missing field)
  | some value => if isPathSegment value then .ok value else .error (.invalid field value)

/-- One segment of the path. -/
def fill (lookup : String → Option String) : TemplateSegment → Except FieldFault String
  | .literal text => .ok text.text
  | .field name => fieldValue lookup name.name

/-- The object path for given values of the fields. -/
def render (t : PathTemplate) (lookup : String → Option String) : Except FieldFault String :=
  match t.segments.mapM (fill lookup) with
  | .error fault => .error fault
  | .ok parts => .ok (Text.join '/' parts)

end PathTemplate

end Gatehouse
