import Gatehouse.Proofs.Pattern.Spelling
import Mathlib.Data.Set.List

/-!
# The grammar of patterns

Which texts are patterns is said here without reading any: a grammar for the parts of a text,
one for object patterns (`ObjectParts`) and one for action patterns (`ActionParts`).  Reading
goes through a part by one question after the other, and an answer to an earlier one decides
what the later ones are asked about.  What comes out is the grammar all the same: a text is
read exactly if its parts follow the grammar, and the segments that have been read are spelled
like the parts, one by one.  Therefore patterns and grammatical texts are the same things in
two forms (`patterns_are_read_by_grammar`).

### What is load-bearing

The grammars overlap nowhere, since a text that stands for itself has none of the characters
that the other parts are made with.  This is in `ObjectSegment.text_of_read`: whatever question
was answered with yes, the segment is spelled like the part.  Together with the way back
(`ObjectSegment.read_text`) it makes reading and spelling inverse on segments, and what remains
is cutting and joining.
-/

namespace Gatehouse

/-! ## Two grammars -/

/-- A character that can begin a capture name: `[A-Za-z_]`. -/
def BeginsName (c : Char) : Prop := ('A' ≤ c ∧ c ≤ 'Z') ∨ ('a' ≤ c ∧ c ≤ 'z') ∨ c = '_'

/-- A character that can stand behind it: `[A-Za-z0-9_-]`. -/
def ContinuesName (c : Char) : Prop := BeginsName c ∨ ('0' ≤ c ∧ c ≤ '9') ∨ c = '-'

/-- **A capture name**: `[A-Za-z_][A-Za-z0-9_-]*`. -/
def NamesCapture (name : String) : Prop :=
  ∃ first rest, name.toList = first :: rest ∧ BeginsName first ∧ ∀ c ∈ rest, ContinuesName c

/-- **A text that stands for itself** is not empty and has no wildcard and no brace in it. -/
def StandsForItself (part : String) : Prop :=
  part ≠ "" ∧ ∀ c ∈ part.toList, c ≠ '*' ∧ c ≠ '\x7b' ∧ c ≠ '\x7d'

/-- One part of an object pattern: `*`, or a capture name in braces, or a text that stands for
itself. -/
inductive ObjectPart : String → Prop
  | any : ObjectPart "*"
  | capture (name : String) (named : NamesCapture name) : ObjectPart ("\x7b" ++ name ++ "\x7d")
  | literal (part : String) (plain : StandsForItself part) : ObjectPart part

/-- **The parts of an object pattern.**  Only the last one can be `**`. -/
def ObjectParts (parts : List String) : Prop :=
  ∃ front last, parts = front ++ [last] ∧ (∀ part ∈ front, ObjectPart part) ∧
    (ObjectPart last ∨ last = "**")

/-- One part of an action pattern: `*`, or a text that stands for itself. -/
inductive ActionPart : String → Prop
  | any : ActionPart "*"
  | literal (part : String) (plain : StandsForItself part) : ActionPart part

/-- **The parts of an action pattern**, of which there is at least one. -/
def ActionParts (parts : List String) : Prop := parts ≠ [] ∧ ∀ part ∈ parts, ActionPart part

/-! ## Names and literals -/

theorem isCaptureStart_iff {c : Char} : isCaptureStart c = true ↔ BeginsName c := by
  unfold isCaptureStart BeginsName Char.isAlpha Char.isUpper Char.isLower
  simp only [Bool.or_eq_true, Bool.and_eq_true, decide_eq_true_eq, beq_iff_eq, Char.le_def,
    ge_iff_le, or_assoc]

theorem isCaptureChar_iff {c : Char} : isCaptureChar c = true ↔ ContinuesName c := by
  unfold isCaptureChar ContinuesName Char.isAlphanum Char.isDigit
  rw [← isCaptureStart_iff]
  unfold isCaptureStart
  simp only [Bool.or_eq_true, Bool.and_eq_true, decide_eq_true_eq, beq_iff_eq, Char.le_def,
    ge_iff_le]
  tauto

theorem isCaptureName_iff {name : String} : isCaptureName name = true ↔ NamesCapture name := by
  unfold isCaptureName NamesCapture
  cases characters : name.toList with
  | nil => simp
  | cons first rest =>
    simp [isCaptureStart_iff, isCaptureChar_iff]

/-- Without the separator, the condition on literals is that the text stands for itself. -/
theorem isPlain_iff {sep : Char} {text : String} (free : sep ∉ text.toList) :
    isPlain sep text = true ↔ StandsForItself text := by
  have apart : ∀ c ∈ text.toList, c ≠ sep := by
    rintro c mem rfl
    exact free mem
  unfold isPlain StandsForItself isReserved
  simp only [Bool.and_eq_true, bne_iff_ne, List.all_eq_true, Bool.not_eq_true',
    Bool.or_eq_false_iff, beq_eq_false_iff_ne]
  refine and_congr_right fun _ => forall₂_congr fun c mem => ?_
  simp only [ne_eq, apart c mem, not_false_eq_true, true_and, and_assoc]

/-! ## What has been read is spelled like the part -/

theorem ObjectSegment.beforeBrace?_eq_some_iff {cs : List Char} {name : String} :
    beforeBrace? cs = some name ↔ cs = name.toList ++ ['\x7d'] := by
  unfold beforeBrace?
  constructor
  · intro closed
    split at closed
    · rename_i last
      obtain ⟨inner, rfl⟩ := List.getLast?_eq_some_iff.mp last
      cases closed
      simp
    · cases closed
  · rintro rfl
    simp

/-- **What an object segment was read from is its spelling.** -/
theorem ObjectSegment.text_of_read {part : String} {segment : ObjectSegment}
    (h : read part = .ok segment) : segment.text = part := by
  unfold read at h
  split at h
  · cases h
  · split at h
    · rename_i star
      cases h
      exact star.symm
    · split at h
      · rename_i inner characters
        split at h
        · cases h
        · rename_i name closed
          split at h
          · cases h
            rw [← String.toList_inj, characters, beforeBrace?_eq_some_iff.mp closed]
            simp [text]
          · cases h
      · split at h
        · cases h
          rfl
        · cases h

/-- **What an action segment was read from is its spelling.** -/
theorem ActionSegment.text_of_read {part : String} {segment : ActionSegment}
    (h : read part = .ok segment) : segment.text = part := by
  unfold read at h
  split at h
  · cases h
  · split at h
    · rename_i star
      cases h
      exact star.symm
    · split at h
      · cases h
        rfl
      · cases h

/-- The segments of an object pattern are spelled like the parts, one by one. -/
theorem ObjectPattern.spellings_of_readParts {parts : List String} {segments : List ObjectSegment}
    {hasRest : Bool} (h : readParts parts = .ok (segments, hasRest)) :
    (segments.map (·.text) ++ if hasRest then ["**"] else []) = parts := by
  induction parts generalizing segments hasRest with
  | nil =>
    cases h
    rfl
  | cons part rest ih =>
    rw [readParts] at h
    split at h
    · rename_i closing
      split at h
      · rename_i last
        cases h
        rw [closing, last]
        rfl
      · cases h
    · split at h
      · cases h
      · rename_i segment first
        split at h
        · cases h
        · rename_i others otherRest behind
          cases h
          rw [List.map_cons, List.cons_append, ObjectSegment.text_of_read first, ih behind]

/-- The segments of an action pattern are spelled like the parts, one by one. -/
theorem ActionSegment.spellings_of_mapM_read {parts : List String} {segments : List ActionSegment}
    (h : parts.mapM read = .ok segments) : segments.map (·.text) = parts := by
  have spelled : List.Forall₂ (fun part segment => text segment = part) parts segments :=
    (mapM_eq_ok_iff.mp h).imp fun _ _ => text_of_read
  rw [← List.forall₂_eq_eq_eq, List.forall₂_map_left_iff]
  exact spelled.flip

/-! ## Spellings and the grammar -/

theorem NamesCapture.of_captureName (captured : CaptureName) : NamesCapture captured.name :=
  isCaptureName_iff.mp captured.wellFormed

theorem StandsForItself.of_literal {sep : Char} (literal : Literal sep) :
    StandsForItself literal.text :=
  (isPlain_iff literal.sep_notMem).mp literal.plain

/-- **The spellings of object segments are the parts that follow the grammar.** -/
theorem ObjectSegment.exists_text_eq_iff {part : String} (free : '/' ∉ part.toList) :
    (∃ segment : ObjectSegment, segment.text = part) ↔ ObjectPart part := by
  constructor
  · rintro ⟨segment, rfl⟩
    cases segment with
    | literal t => exact .literal t.text (.of_literal t)
    | any => exact .any
    | capture n => exact .capture n.name (.of_captureName n)
  · intro grammatical
    cases grammatical with
    | any => exact ⟨.any, rfl⟩
    | capture name named => exact ⟨.capture ⟨name, isCaptureName_iff.mpr named⟩, rfl⟩
    | literal part plain => exact ⟨.literal ⟨part, (isPlain_iff free).mpr plain⟩, rfl⟩

/-- **The spellings of action segments are the parts that follow the grammar.** -/
theorem ActionSegment.exists_text_eq_iff {part : String} (free : '.' ∉ part.toList) :
    (∃ segment : ActionSegment, segment.text = part) ↔ ActionPart part := by
  constructor
  · rintro ⟨segment, rfl⟩
    cases segment with
    | literal t => exact .literal t.text (.of_literal t)
    | any => exact .any
  · intro grammatical
    cases grammatical with
    | any => exact ⟨.any, rfl⟩
    | literal part plain => exact ⟨.literal ⟨part, (isPlain_iff free).mpr plain⟩, rfl⟩

/-- Texts that are spellings one by one are the spellings of a list. -/
theorem exists_map_eq_iff {α β : Type} {spell : α → β} {texts : List β} :
    (∃ xs : List α, xs.map spell = texts) ↔ ∀ text ∈ texts, ∃ x, spell x = text :=
  Set.ext_iff.mp (Set.range_list_map spell) texts

/-- **The spellings of object patterns are the lists that follow the grammar.** -/
theorem ObjectPattern.exists_spellings_eq_iff {parts : List String}
    (free : ∀ part ∈ parts, '/' ∉ part.toList) :
    (∃ pattern : ObjectPattern, pattern.spellings = parts) ↔ ObjectParts parts := by
  constructor
  · rintro ⟨⟨segments, hasRest, nonempty⟩, rfl⟩
    have each : ∀ part ∈ segments.map (·.text), ObjectPart part := by
      intro part mem
      obtain ⟨segment, -, spelled⟩ := List.mem_map.mp mem
      have slashless : '/' ∉ part.toList := spelled ▸ segment.slash_notMem
      exact (ObjectSegment.exists_text_eq_iff slashless).mp ⟨segment, spelled⟩
    cases hasRest with
    | true => exact ⟨segments.map (·.text), "**", rfl, each, Or.inr rfl⟩
    | false =>
      have some : segments.map (·.text) ≠ [] := by simpa using nonempty
      have split := List.dropLast_append_getLast some
      refine ⟨_, _, ?_, fun part mem => each part (List.dropLast_subset _ mem),
        Or.inl (each _ (List.getLast_mem some))⟩
      rw [split]
      exact List.append_nil _
  · rintro ⟨front, last, rfl, each, closing⟩
    have segment : ∀ part ∈ front ++ [last], ObjectPart part →
        ∃ segment : ObjectSegment, segment.text = part := fun part mem grammatical =>
      (ObjectSegment.exists_text_eq_iff (free part mem)).mpr grammatical
    obtain ⟨segments, rfl⟩ := exists_map_eq_iff.mpr fun part mem =>
      segment part (List.mem_append_left _ mem) (each part mem)
    rcases closing with grammatical | rfl
    · obtain ⟨closing, rfl⟩ := segment last (by simp) grammatical
      exact ⟨⟨segments ++ [closing], false, by simp⟩, by simp [spellings]⟩
    · exact ⟨⟨segments, true, by simp⟩, rfl⟩

/-- **The spellings of action patterns are the lists that follow the grammar.** -/
theorem ActionPattern.exists_spellings_eq_iff {parts : List String}
    (free : ∀ part ∈ parts, '.' ∉ part.toList) :
    (∃ pattern : ActionPattern, pattern.segments.map (·.text) = parts) ↔ ActionParts parts := by
  constructor
  · rintro ⟨pattern, rfl⟩
    refine ⟨by simpa using pattern.nonempty, fun part mem => ?_⟩
    obtain ⟨segment, -, spelled⟩ := List.mem_map.mp mem
    exact (ActionSegment.exists_text_eq_iff (free part mem)).mp ⟨segment, spelled⟩
  · rintro ⟨nonempty, each⟩
    obtain ⟨segments, rfl⟩ := exists_map_eq_iff.mpr fun part mem =>
      (ActionSegment.exists_text_eq_iff (free part mem)).mpr (each part mem)
    exact ⟨⟨segments, by simpa using nonempty⟩, rfl⟩

/-! ## Patterns -/

/-- **An object pattern is read from a text** exactly if it is spelled like its parts. -/
theorem ObjectPattern.parse_eq_ok_iff {text : String} {pattern : ObjectPattern} :
    parse text = .ok pattern ↔ pattern.spellings = Text.parts '/' text := by
  constructor
  · intro h
    unfold parse at h
    split at h
    · cases h
    · split at h
      · cases h
      · rename_i segments hasRest read
        cases h
        exact spellings_of_readParts read
  · intro spelled
    have same : pattern.text = text := by rw [ObjectPattern.text, spelled, Text.join_parts]
    rw [← same, parse_text]

/-- **An action pattern is read from a text** exactly if it is spelled like its parts. -/
theorem ActionPattern.parse_eq_ok_iff {text : String} {pattern : ActionPattern} :
    parse text = .ok pattern ↔ pattern.segments.map (·.text) = Text.parts '.' text := by
  constructor
  · intro h
    unfold parse at h
    split at h
    · cases h
    · split at h
      · cases h
      · rename_i segments read
        cases h
        exact ActionSegment.spellings_of_mapM_read read
  · intro spelled
    have same : pattern.text = text := by rw [ActionPattern.text, spelled, Text.join_parts]
    rw [← same, parse_text]

/-- **An action pattern is read** exactly if it follows the grammar. -/
theorem ActionPattern.exists_parse_iff {text : String} :
    (∃ pattern, parse text = .ok pattern) ↔ ActionParts (Text.parts '.' text) := by
  simp only [parse_eq_ok_iff]
  exact exists_spellings_eq_iff fun part mem => Text.notMem_toList_of_mem_parts mem

/-- **An object pattern is read** exactly if it follows the grammar. -/
theorem ObjectPattern.exists_parse_iff {text : String} :
    (∃ pattern, parse text = .ok pattern) ↔ ObjectParts (Text.parts '/' text) := by
  simp only [parse_eq_ok_iff]
  exact exists_spellings_eq_iff fun part mem => Text.notMem_toList_of_mem_parts mem

/-- What an action pattern was read from is its spelling. -/
theorem ActionPattern.text_of_parse {text : String} {pattern : ActionPattern}
    (h : parse text = .ok pattern) : pattern.text = text := by
  rw [ActionPattern.text, parse_eq_ok_iff.mp h, Text.join_parts]

/-- What an object pattern was read from is its spelling. -/
theorem ObjectPattern.text_of_parse {text : String} {pattern : ObjectPattern}
    (h : parse text = .ok pattern) : pattern.text = text := by
  rw [ObjectPattern.text, parse_eq_ok_iff.mp h, Text.join_parts]

/-- **Values are read by a grammar.**  Each value has spellings, to be joined by a separator.

The texts that are read are those whose parts follow the grammar.  The spellings of what has
been read are the parts of the text, and give the text when they are joined.  What has been
joined from the spellings of any value is read as this value.  So the values on the one side,
and the texts that follow the grammar on the other side, are one to one. -/
structure ReadByGrammar {α ε : Type} (read : String → Except ε α) (sep : Char)
    (spellings : α → List String) (Grammar : List String → Prop) : Prop where
  accepts : ∀ text, (∃ x, read text = .ok x) ↔ Grammar (Text.parts sep text)
  partwise : ∀ text x, read text = .ok x → spellings x = Text.parts sep text
  lossless : ∀ text x, read text = .ok x → Text.join sep (spellings x) = text
  read_join : ∀ x, read (Text.join sep (spellings x)) = .ok x
  bijective : Set.BijOn (fun x => Text.join sep (spellings x)) Set.univ
    {text | Grammar (Text.parts sep text)}

/-- All of this comes from knowing when a value is read, and which lists are spellings. -/
theorem ReadByGrammar.of_spellings {α ε : Type} {read : String → Except ε α} {sep : Char}
    {spellings : α → List String} {Grammar : List String → Prop}
    (reads : ∀ text x, read text = .ok x ↔ spellings x = Text.parts sep text)
    (separable : ∀ x, spellings x ≠ [] ∧ ∀ part ∈ spellings x, sep ∉ part.toList)
    (grammatical : ∀ parts, (∀ part ∈ parts, sep ∉ part.toList) →
      ((∃ x, spellings x = parts) ↔ Grammar parts)) :
    ReadByGrammar read sep spellings Grammar := by
  have accepts : ∀ text, (∃ x, read text = .ok x) ↔ Grammar (Text.parts sep text) := by
    intro text
    simp only [reads]
    exact grammatical _ fun part mem => Text.notMem_toList_of_mem_parts mem
  have lossless : ∀ text x, read text = .ok x → Text.join sep (spellings x) = text := by
    intro text x h
    rw [(reads text x).mp h, Text.join_parts]
  have read_join : ∀ x, read (Text.join sep (spellings x)) = .ok x := by
    intro x
    exact (reads _ x).mpr (Text.parts_join (separable x).1 (separable x).2).symm
  refine ⟨accepts, fun text x => (reads text x).mp, lossless, read_join, ?_, ?_, ?_⟩
  · intro x _
    exact (accepts _).mp ⟨x, read_join x⟩
  · intro x _ y _ (same : Text.join sep (spellings x) = Text.join sep (spellings y))
    have twice : read (Text.join sep (spellings x)) = .ok y := by
      rw [same]
      exact read_join y
    rw [read_join x] at twice
    exact Except.ok.inj twice
  · intro text follows
    obtain ⟨x, h⟩ := (accepts text).mpr follows
    exact ⟨x, Set.mem_univ x, lossless text x h⟩

/-- **Patterns are read by their grammars**, object patterns by the one with captures and a
closing wildcard, and action patterns by the one without. -/
theorem patterns_are_read_by_grammar :
    ReadByGrammar ObjectPattern.parse '/' ObjectPattern.spellings ObjectParts ∧
      ReadByGrammar ActionPattern.parse '.' (fun pattern => pattern.segments.map (·.text))
        ActionParts := by
  constructor
  · exact .of_spellings (fun text pattern => ObjectPattern.parse_eq_ok_iff)
      (fun pattern => ⟨pattern.spellings_ne_nil, fun part => pattern.slash_notMem⟩)
      fun parts => ObjectPattern.exists_spellings_eq_iff
  · exact .of_spellings (fun text pattern => ActionPattern.parse_eq_ok_iff)
      (fun pattern => ⟨by simpa using pattern.nonempty, fun part => pattern.dot_notMem⟩)
      fun parts => ActionPattern.exists_spellings_eq_iff

end Gatehouse
