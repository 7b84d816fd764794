import Gatehouse.Entity.Kind
import Gatehouse.Proofs.Pattern.Assignments
import Gatehouse.Proofs.Pattern.Grammar

/-!
# Paths tell the fields that they were rendered from

A kind of entity has a template, which spells the path of an entity out of the values of its
fields.  The template is a pattern as well, and as such it describes the paths that it renders:
it matches them, and captures the values that they have been rendered from.  Conversely, a path
that it matches is rendered again from what it captures.  So no value of a field can be chosen
such that the path becomes the one of an entity with other values
(`EntityKind.rendering_and_matching_are_inverse`).

### What is load-bearing

One equivalence (`PathTemplate.render_eq_ok_iff`): a template renders a path exactly if it fits
the path, as a pattern and without any regard to names, and the fields have the values that are
captured there.  All else is read off it, and off the same fact about a match
(`ObjectPattern.bindings?_eq_some_iff`).  It needs that a value has no slash and is not empty,
since only then the rendered path is cut where it was joined, and every part is one that a
capture accepts.  Nothing else is asked of a value: it may look like a wildcard or a capture.

### Read by braces

The fields of a template can also be found without reading it as a pattern, by looking for
braces at both ends of a part (`PlainSegment.read`).  Of a text that is a pattern this tells the
same segments (`PathTemplate.readByBraces_eq`).
-/

namespace Gatehouse

open ObjectPattern (Fits captured fits_nil not_fits_cons_nil fits_cons_cons)

/-! ## Templates among patterns -/

namespace PathTemplate

theorem mapM_ofPattern?_eq_some_iff {segments : List ObjectSegment} {own : List TemplateSegment} :
    segments.mapM TemplateSegment.ofPattern? = some own ↔ segments = own.map (·.pattern) := by
  induction segments generalizing own with
  | nil => cases own <;> simp
  | cons segment segments ih =>
    rw [List.mapM_cons]
    cases own with
    | nil => simp [bind, Option.bind_eq_some_iff]
    | cons first rest =>
      simp [bind, pure, Option.bind_eq_some_iff, TemplateSegment.ofPattern?_eq_some_iff, ih]

theorem eq_pattern_iff {p : ObjectPattern} {t : PathTemplate} :
    p = t.pattern ↔ p.hasRest = false ∧ p.segments.mapM TemplateSegment.ofPattern? =
      some t.segments := by
  obtain ⟨segments, hasRest, nonempty⟩ := p
  rw [mapM_ofPattern?_eq_some_iff, PathTemplate.pattern, ObjectPattern.mk.injEq, and_comm]

/-- **A template is made of the pattern that it can be read as**, and of no other. -/
theorem ofPattern?_eq_some_iff {p : ObjectPattern} {t : PathTemplate} :
    ofPattern? p = some t ↔ p = t.pattern := by
  rw [eq_pattern_iff]
  unfold ofPattern?
  by_cases closed : p.hasRest = false
  · rw [dif_pos closed]
    split
    · rename_i segments
      simp [segments]
    · rename_i own segments
      obtain ⟨others, some⟩ := t
      simp [closed, segments]
  · rw [dif_neg closed]
    simp [closed]

/-- **A template is read from a text** exactly if its pattern is. -/
theorem parse_eq_ok_iff {text : String} {t : PathTemplate} :
    parse text = .ok t ↔ ObjectPattern.parse text = .ok t.pattern := by
  unfold parse
  cases ObjectPattern.parse text with
  | error e => simp
  | ok p =>
    rw [Except.ok.injEq, ← ofPattern?_eq_some_iff]
    dsimp only
    cases ofPattern? p <;> simp

/-- The names of the fields, as often as they are written. -/
def fields (t : PathTemplate) : List String := t.segments.filterMap (·.fieldName?)

/-- The fields of a template are what it captures as a pattern. -/
theorem mem_fields_iff {t : PathTemplate} {field : String} :
    field ∈ t.fields ↔ field ∈ t.pattern.captureNames := by
  have same : ∀ segment : TemplateSegment, segment.pattern.captureName? = segment.fieldName? := by
    intro segment
    cases segment <;> rfl
  unfold fields ObjectPattern.captureNames PathTemplate.pattern
  rw [List.mem_eraseDups, List.filterMap_map]
  simp only [Function.comp_def, same]

end PathTemplate

/-! ## Filling in -/

theorem isPathSegment_iff {value : String} :
    isPathSegment value = true ↔ value ≠ "" ∧ '/' ∉ value.toList := by
  simp [isPathSegment]

namespace PathTemplate

variable {t : PathTemplate} {lookup : String → Option String} {path : String}

theorem fieldValue_eq_ok_iff {field value : String} :
    fieldValue lookup field = .ok value ↔
      lookup field = some value ∧ value ≠ "" ∧ '/' ∉ value.toList := by
  unfold fieldValue
  cases lookup field with
  | none => simp
  | some own =>
    rw [← isPathSegment_iff, Option.some_inj]
    dsimp only
    split
    · rename_i segment
      rw [Except.ok.injEq]
      constructor
      · rintro rfl
        exact ⟨rfl, segment⟩
      · exact And.left
    · rename_i segment
      constructor
      · nofun
      · rintro ⟨rfl, valid⟩
        exact absurd valid segment

/-- **A segment is filled in by a part** that it accepts as one of a pattern, if the part has
no slash and is the value of the field that it would be captured for. -/
theorem fill_eq_ok_iff {segment : TemplateSegment} {part : String} :
    fill lookup segment = .ok part ↔
      segment.pattern.Accepts part ∧ '/' ∉ part.toList ∧
        ∀ e ∈ segment.pattern.entries part, lookup e.1 = some e.2 := by
  cases segment with
  | literal text =>
    have entries : ObjectSegment.entries (.literal text) part = [] := rfl
    rw [fill, TemplateSegment.pattern, ObjectSegment.Accepts, Except.ok.injEq, entries]
    constructor
    · rintro rfl
      exact ⟨rfl, text.sep_notMem, List.forall_mem_nil _⟩
    · rintro ⟨same, -⟩
      exact same.symm
  | field name =>
    have entries : ObjectSegment.entries (.capture name) part = [(name.name, part)] := rfl
    rw [fill, TemplateSegment.pattern, ObjectSegment.Accepts, fieldValue_eq_ok_iff, entries,
      List.forall_mem_singleton, and_comm, and_assoc]

/-- The segments of a template are filled in by parts that they fit. -/
theorem mapM_fill_eq_ok_iff {segments : List TemplateSegment} {parts : List String} :
    segments.mapM (fill lookup) = .ok parts ↔
      Fits false (segments.map (·.pattern)) parts ∧ (∀ part ∈ parts, '/' ∉ part.toList) ∧
        ∀ e ∈ captured (segments.map (·.pattern)) parts, lookup e.1 = some e.2 := by
  rw [mapM_eq_ok_iff]
  induction segments generalizing parts with
  | nil =>
    rw [List.forall₂_nil_left_iff, List.map_nil, fits_nil]
    cases parts with
    | nil => simp [captured]
    | cons part parts => simp
  | cons segment segments ih =>
    cases parts with
    | nil => simp [not_fits_cons_nil]
    | cons part parts =>
      rw [List.forall₂_cons, fill_eq_ok_iff, ih, List.map_cons, fits_cons_cons, captured,
        List.forall_mem_append, List.forall_mem_cons]
      tauto

/-- **What a template renders it fits**, and the fields have the values that are captured.  And
a path that it fits is rendered, if the fields have these values. -/
theorem render_eq_ok_iff :
    t.render lookup = .ok path ↔
      t.pattern.FitsPath path ∧ ∀ e ∈ t.pattern.capturedOn path, lookup e.1 = some e.2 := by
  constructor
  · intro h
    unfold render at h
    split at h
    · cases h
    · rename_i parts filled
      cases h
      obtain ⟨fits, slashless, values⟩ := mapM_fill_eq_ok_iff.mp filled
      have some : parts ≠ [] := by
        rintro rfl
        exact t.nonempty (List.map_eq_nil_iff.mp (List.length_eq_zero_iff.mp fits.length.symm))
      have cut : Text.parts '/' (Text.join '/' parts) = parts := Text.parts_join some slashless
      unfold ObjectPattern.FitsPath ObjectPattern.capturedOn
      rw [cut]
      exact ⟨fits, values⟩
  · rintro ⟨fits, values⟩
    have filled : t.segments.mapM (fill lookup) = .ok (Text.parts '/' path) :=
      mapM_fill_eq_ok_iff.mpr
        ⟨fits, fun part mem => Text.notMem_toList_of_mem_parts mem, values⟩
    rw [render, filled]
    exact congrArg Except.ok (Text.join_parts '/' path)

/-- **A path can be rendered** exactly if every field has a value that is a segment of a path. -/
theorem exists_render_iff :
    (∃ path, t.render lookup = .ok path) ↔
      ∀ field ∈ t.fields, ∃ value, lookup field = some value ∧ value ≠ "" ∧
        '/' ∉ value.toList := by
  have filled : (∃ path, t.render lookup = .ok path) ↔
      ∃ parts, t.segments.mapM (fill lookup) = .ok parts := by
    unfold render
    cases t.segments.mapM (fill lookup) <;> simp
  rw [filled, exists_mapM_eq_ok_iff]
  constructor
  · intro each field mem
    obtain ⟨segment, written, named⟩ := List.mem_filterMap.mp mem
    cases segment with
    | literal text => cases named
    | field name =>
      cases named
      obtain ⟨value, valued⟩ := each _ written
      exact ⟨value, fieldValue_eq_ok_iff.mp valued⟩
  · intro valued segment written
    cases segment with
    | literal text => exact ⟨text.text, rfl⟩
    | field name =>
      obtain ⟨value, valid⟩ := valued name.name (List.mem_filterMap.mpr ⟨_, written, rfl⟩)
      exact ⟨value, fieldValue_eq_ok_iff.mpr valid⟩

/-- What is captured on a rendered path are the values of the fields. -/
theorem mem_capturedOn_iff (rendered : t.render lookup = .ok path) {field value : String} :
    (field, value) ∈ t.pattern.capturedOn path ↔
      field ∈ t.fields ∧ lookup field = some value := by
  obtain ⟨fits, values⟩ := render_eq_ok_iff.mp rendered
  rw [mem_fields_iff, ObjectPattern.mem_captureNames_iff]
  constructor
  · intro mem
    obtain ⟨position, captures, -⟩ := ObjectPattern.mem_capturedOn_iff.mp mem
    exact ⟨⟨position, captures⟩, values _ mem⟩
  · rintro ⟨⟨position, captures⟩, valued⟩
    obtain ⟨part, -, -, mem⟩ := fits.exists_entry captures
    have same : lookup field = some part := values _ mem
    rw [valued, Option.some_inj] at same
    exact same ▸ mem

/-- **A template matches what it renders**, and captures the values of its fields. -/
theorem exists_bindings?_of_render (rendered : t.render lookup = .ok path) :
    ∃ found, t.pattern.bindings? path = some found ∧
      ∀ field, found.get? field = if field ∈ t.fields then lookup field else none := by
  obtain ⟨found, matched⟩ :=
    ObjectPattern.exists_bindings? (render_eq_ok_iff.mp rendered).1 fun field x y memX memY => by
      have first := ((mem_capturedOn_iff rendered).mp memX).2
      have second := ((mem_capturedOn_iff rendered).mp memY).2
      exact Option.some.inj (first.symm.trans second)
  refine ⟨found, matched, fun field => Option.ext fun value => ?_⟩
  rw [(ObjectPattern.bindings?_eq_some_iff.mp matched).2, mem_capturedOn_iff rendered]
  split <;> simp_all

/-- **A template renders what it matches**, from the values that it captures. -/
theorem render_of_bindings? {found : Bindings} (matched : t.pattern.bindings? path = some found) :
    t.render found.get? = .ok path := by
  obtain ⟨fits, entries⟩ := ObjectPattern.bindings?_eq_some_iff.mp matched
  exact render_eq_ok_iff.mpr ⟨fits, fun e mem => (entries e.1 e.2).mpr mem⟩

/-- **A path has been rendered from one value of each field.** -/
theorem eq_of_render {other : String → Option String} (first : t.render lookup = .ok path)
    (second : t.render other = .ok path) : ∀ field ∈ t.fields, lookup field = other field := by
  intro field mem
  obtain ⟨position, captures⟩ := ObjectPattern.mem_captureNames_iff.mp (mem_fields_iff.mp mem)
  obtain ⟨fits, values⟩ := render_eq_ok_iff.mp first
  obtain ⟨part, -, -, captured⟩ := fits.exists_entry captures
  exact (values _ captured).trans ((render_eq_ok_iff.mp second).2 _ captured).symm

end PathTemplate

/-! ## Reading by braces -/

/-- The text between a brace at the beginning and a brace at the end. -/
def betweenBraces? (part : String) : Option String :=
  match part.toList with
  | '\x7b' :: inner => ObjectSegment.beforeBrace? inner
  | _ => none

/-- A segment of a template as its braces tell it. -/
inductive PlainSegment where
  | literal (text : String)
  | field (name : String)
  deriving DecidableEq

/-- What braces tell about a segment that has been read. -/
def TemplateSegment.plain : TemplateSegment → PlainSegment
  | literal text => .literal text.text
  | field name => .field name.name

/-- Read a segment by its braces. -/
def PlainSegment.read (part : String) : Except TemplateFault PlainSegment :=
  if part = "*" ∨ part = "**" then .error .wildcard
  else
    match betweenBraces? part with
    | some name => .ok (.field name)
    | none => .ok (.literal part)

/-- **Read a template by braces**: the text has to be a pattern, and is then cut into parts
again, of which only the wildcards and the braces are looked at. -/
def PathTemplate.readByBraces (text : String) : Except TemplateFault (List PlainSegment) :=
  match ObjectPattern.parse text with
  | .error error => .error (.pattern error)
  | .ok _ => (Text.parts '/' text).mapM PlainSegment.read

theorem betweenBraces?_eq_some_iff {part name : String} :
    betweenBraces? part = some name ↔ part = "\x7b" ++ name ++ "\x7d" := by
  rw [← String.toList_inj]
  unfold betweenBraces?
  constructor
  · intro closed
    split at closed
    · rename_i inner characters
      rw [characters, ObjectSegment.beforeBrace?_eq_some_iff.mp closed]
      simp
    · cases closed
  · intro characters
    have shape : part.toList = '\x7b' :: (name.toList ++ ['\x7d']) := by simp [characters]
    rw [shape]
    exact ObjectSegment.beforeBrace?_eq_some_iff.mpr rfl

/-- A segment of a template is in braces if it stands for a field. -/
theorem TemplateSegment.betweenBraces?_text (segment : TemplateSegment) :
    betweenBraces? segment.pattern.text = segment.fieldName? := by
  cases segment with
  | literal text =>
    rw [fieldName?, Option.eq_none_iff_forall_ne_some]
    intro name closed
    have inBraces : text.text = "\x7b" ++ name ++ "\x7d" := betweenBraces?_eq_some_iff.mp closed
    have brace : '\x7b' ∈ text.text.toList := by simp [inBraces]
    exact text.text_ne (c := '\x7b') brace (by decide) rfl
  | field name => exact betweenBraces?_eq_some_iff.mpr rfl

theorem TemplateSegment.text_ne_star (segment : TemplateSegment) : segment.pattern.text ≠ "*" := by
  intro same
  cases segment with
  | literal text => exact text.text_ne (c := '*') (by decide) (by decide) same
  | field name =>
    have characters := congrArg String.toList same
    simp [pattern, ObjectSegment.text] at characters

/-- Of a segment that is no wildcard, braces tell what it is. -/
theorem PlainSegment.read_text (segment : TemplateSegment) :
    read segment.pattern.text = .ok segment.plain := by
  rw [read, if_neg (not_or.mpr ⟨segment.text_ne_star, segment.pattern.text_ne_rest⟩),
    segment.betweenBraces?_text]
  cases segment <;> rfl

namespace PathTemplate

/-- The spellings of a template. -/
theorem spellings_pattern (t : PathTemplate) :
    t.pattern.spellings = t.segments.map fun segment => segment.pattern.text := by
  simp [ObjectPattern.spellings, PathTemplate.pattern]

/-- A field is written in braces, and what is written in braces is a field. -/
theorem mem_fields_iff_mem_parts {text : String} {t : PathTemplate} (h : parse text = .ok t)
    {field : String} : field ∈ t.fields ↔ "\x7b" ++ field ++ "\x7d" ∈ Text.parts '/' text := by
  rw [← ObjectPattern.parse_eq_ok_iff.mp (parse_eq_ok_iff.mp h), spellings_pattern, fields,
    List.mem_filterMap, List.mem_map]
  simp only [← TemplateSegment.betweenBraces?_text, betweenBraces?_eq_some_iff]

/-- A pattern is no template only because of a wildcard. -/
theorem wildcard_of_ofPattern?_eq_none {p : ObjectPattern} (h : ofPattern? p = none) :
    "*" ∈ p.spellings ∨ "**" ∈ p.spellings := by
  by_contra plain
  rw [not_or] at plain
  have closed : p.hasRest = false := by
    rw [← Bool.not_eq_true]
    intro rest
    exact plain.2 (by simp [ObjectPattern.spellings, rest])
  obtain ⟨own, made⟩ : ∃ own : List TemplateSegment, own.map (·.pattern) = p.segments := by
    rw [exists_map_eq_iff]
    intro segment written
    cases segment with
    | literal text => exact ⟨.literal text, rfl⟩
    | capture name => exact ⟨.field name, rfl⟩
    | any =>
      refine absurd ?_ plain.1
      exact List.mem_append_left _ (List.mem_map.mpr ⟨.any, written, rfl⟩)
  have some : own ≠ [] := by
    rintro rfl
    rcases p.nonempty with nonempty | rest
    · exact nonempty made.symm
    · rw [closed] at rest
      cases rest
  have template : ofPattern? p = .some ⟨own, some⟩ := by
    rw [ofPattern?_eq_some_iff, eq_pattern_iff, mapM_ofPattern?_eq_some_iff]
    exact ⟨closed, made.symm⟩
  rw [h] at template
  cases template

/-- Reading by braces can only fail for a wildcard. -/
theorem eq_wildcard_of_read {part : String} {fault : TemplateFault}
    (h : PlainSegment.read part = .error fault) : fault = .wildcard := by
  unfold PlainSegment.read at h
  split at h
  · exact (Except.error.inj h).symm
  · split at h <;> cases h

/-- **Braces tell the template**: to read a text by braces is to read the template. -/
theorem readByBraces_eq (text : String) :
    readByBraces text = (parse text).map fun t => t.segments.map (·.plain) := by
  unfold readByBraces parse
  cases read : ObjectPattern.parse text with
  | error e => rfl
  | ok p =>
    dsimp only
    rw [← ObjectPattern.parse_eq_ok_iff.mp read]
    cases made : ofPattern? p with
    | some t =>
      obtain rfl := ofPattern?_eq_some_iff.mp made
      rw [spellings_pattern]
      refine mapM_eq_ok_iff.mpr ?_
      rw [List.forall₂_map_left_iff, List.forall₂_map_right_iff, List.forall₂_same]
      exact fun segment _ => PlainSegment.read_text segment
    | none =>
      cases all : p.spellings.mapM PlainSegment.read with
      | error fault =>
        obtain ⟨part, -, faulty⟩ := exists_of_mapM_eq_error all
        rw [eq_wildcard_of_read faulty]
        rfl
      | ok plain =>
        -- The wildcard of the pattern has not been read.
        have each := exists_mapM_eq_ok_iff.mp ⟨plain, all⟩
        rcases wildcard_of_ofPattern?_eq_none made with star | rest
        · obtain ⟨segment, seen⟩ := each "*" star
          cases seen
        · obtain ⟨segment, seen⟩ := each "**" rest
          cases seen

end PathTemplate

/-! ## Kinds of entities -/

namespace EntityKind

variable {kind : EntityKind} {lookup : String → Option String} {path : String}

theorem make_eq_ok_iff {name text : String} {verbs : List String} :
    make name text verbs = .ok kind ↔
      ∃ t, PathTemplate.parse text = .ok t ∧ kind = ⟨name, t, verbs⟩ := by
  unfold make
  cases PathTemplate.parse text <;> simp [eq_comm]

theorem path_eq_ok_iff : kind.path lookup = .ok path ↔ kind.template.render lookup = .ok path := by
  unfold EntityKind.path
  cases kind.template.render lookup <;> simp

/-- **Rendering and matching are inverse.**  Take any kind of entity that can be made, and its
template as a pattern.

A path is rendered exactly if every field of the template, which is what is written in braces,
has a value that is not empty and has no slash in it.  The pattern then matches the path, and
binds exactly the fields, to these values.  Conversely, a path that the pattern matches is
rendered from the bindings.  So values that render the same path are the same for every field.
And the fields can be told by the braces of the text alone. -/
theorem rendering_and_matching_are_inverse (name text : String) (verbs : List String)
    (kind : EntityKind) (made : make name text verbs = .ok kind) :
    ∃ pattern, ObjectPattern.parse text = .ok pattern ∧
      (∀ field, field ∈ kind.template.fields ↔
        "\x7b" ++ field ++ "\x7d" ∈ Text.parts '/' text) ∧
      (∀ lookup, (∃ path, kind.path lookup = .ok path) ↔
        ∀ field ∈ kind.template.fields, ∃ value, lookup field = some value ∧ value ≠ "" ∧
          '/' ∉ value.toList) ∧
      (∀ lookup path, kind.path lookup = .ok path →
        ∃ found, pattern.bindings? path = some found ∧
          ∀ field, found.get? field =
            if field ∈ kind.template.fields then lookup field else none) ∧
      (∀ path found, pattern.bindings? path = some found → kind.path found.get? = .ok path) ∧
      (∀ lookup other path, kind.path lookup = .ok path → kind.path other = .ok path →
        ∀ field ∈ kind.template.fields, lookup field = other field) ∧
      PathTemplate.readByBraces text = .ok (kind.template.segments.map (·.plain)) := by
  obtain ⟨t, parsed, rfl⟩ := make_eq_ok_iff.mp made
  simp only [path_eq_ok_iff]
  refine ⟨t.pattern, PathTemplate.parse_eq_ok_iff.mp parsed, ?_, ?_, ?_, ?_, ?_, ?_⟩
  · exact fun field => PathTemplate.mem_fields_iff_mem_parts parsed
  · exact fun lookup => PathTemplate.exists_render_iff
  · exact fun lookup path => PathTemplate.exists_bindings?_of_render
  · exact fun path found => PathTemplate.render_of_bindings?
  · exact fun lookup other path => PathTemplate.eq_of_render
  · rw [PathTemplate.readByBraces_eq, parsed]
    rfl

/-- A project that is named like a capture, in an organization that is named like a wildcard, has
a path of its own: the values are captured as they are, and nothing else renders this path. -/
theorem lookalike_values_are_told_apart :
    let text := "organization/\x7borganization\x7d/project/\x7bslug\x7d"
    let lookup : String → Option String := fun field =>
      if field = "organization" then some "*"
      else if field = "slug" then some "\x7bslug\x7d" else none
    let path := "organization/*/project/\x7bslug\x7d"
    ∃ kind, make "project" text ["view"] = .ok kind ∧
      kind.template.fields = ["organization", "slug"] ∧ kind.path lookup = .ok path ∧
      (∃ pattern found, ObjectPattern.parse text = .ok pattern ∧
        pattern.bindings? path = some found ∧ found.get? "organization" = some "*" ∧
        found.get? "slug" = some "\x7bslug\x7d" ∧ found.get? "project" = none) ∧
      ∀ other, kind.path other = .ok path →
        other "organization" = some "*" ∧ other "slug" = some "\x7bslug\x7d" := by
  intro text lookup path
  let kind : EntityKind :=
    ⟨"project", ⟨[.literal ⟨"organization", by decide⟩, .field ⟨"organization", by decide⟩,
      .literal ⟨"project", by decide⟩, .field ⟨"slug", by decide⟩], by simp⟩, ["view"]⟩
  have made : make "project" text ["view"] = .ok kind := by decide +kernel
  have fields : kind.template.fields = ["organization", "slug"] := by decide +kernel
  have rendered : kind.path lookup = .ok path := by decide +kernel
  obtain ⟨pattern, parsed, -, -, captures, -, unique, -⟩ :=
    rendering_and_matching_are_inverse "project" text ["view"] kind made
  obtain ⟨found, matched, values⟩ := captures lookup path rendered
  rw [fields] at values unique
  refine ⟨kind, made, fields, rendered, ⟨pattern, found, parsed, matched, ?_, ?_, ?_⟩, ?_⟩
  · exact values "organization"
  · exact values "slug"
  · exact values "project"
  · intro other same
    have agree := unique lookup other path rendered same
    exact ⟨(agree "organization" (by simp)).symm, (agree "slug" (by simp)).symm⟩

end EntityKind

end Gatehouse
