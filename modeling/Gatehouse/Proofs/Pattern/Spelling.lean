import Gatehouse.Pattern.Action
import Gatehouse.Pattern.Object
import Mathlib.Data.List.Forall2

/-!
# Patterns are read as they are spelled

A pattern keeps its segments and not the text that it was read from, so a policy is written
with the spellings of its patterns.  Reading a spelling gives the pattern back, for action
patterns (`ActionPattern.parse_text`) and for object patterns (`ObjectPattern.parse_text`).

*What is load-bearing.*  No spelling of a segment is empty or holds the separator, so the
joined spellings are cut where they were joined (`Text.parts_join`).  Among the spellings of
segments, the reserved characters tell a wildcard and a capture from a literal.
-/

namespace Gatehouse

namespace Literal

variable {sep : Char} (literal : Literal sep)

theorem text_ne_empty : literal.text ≠ "" := by
  have plain := literal.plain
  simp only [isPlain, Bool.and_eq_true, bne_iff_ne] at plain
  exact plain.1

theorem isReserved_of_mem {c : Char} (h : c ∈ literal.text.toList) : isReserved sep c = false := by
  have plain := literal.plain
  simp only [isPlain, Bool.and_eq_true, List.all_eq_true, Bool.not_eq_true'] at plain
  exact plain.2 c h

/-- A text with a reserved character in it is no literal. -/
theorem text_ne {text : String} {c : Char} (h : c ∈ text.toList) (reserved : isReserved sep c) :
    literal.text ≠ text := by
  rintro rfl
  rw [literal.isReserved_of_mem h] at reserved
  cases reserved

theorem sep_notMem : sep ∉ literal.text.toList := by
  intro h
  have free := literal.isReserved_of_mem h
  simp [isReserved] at free

end Literal

namespace CaptureName

variable (captured : CaptureName)

/-- The characters of capture names are none of the separators. -/
theorem slash_notMem : '/' ∉ captured.name.toList := by
  have wellFormed := captured.wellFormed
  intro h
  unfold isCaptureName at wellFormed
  split at wellFormed
  · cases wellFormed
  · rename_i c cs characters
    rw [characters, List.mem_cons] at h
    simp only [Bool.and_eq_true, List.all_eq_true] at wellFormed
    rcases h with rfl | h
    · exact absurd wellFormed.1 (by decide)
    · exact absurd (wellFormed.2 _ h) (by decide)

end CaptureName

/-- A joined text is empty only if it has an empty part. -/
theorem Text.join_ne_empty {sep : Char} {ps : List String} (ne : ps ≠ [])
    (h : ∀ p ∈ ps, sep ∉ p.toList) (full : ∀ p ∈ ps, p ≠ "") : Text.join sep ps ≠ "" := by
  intro empty
  have parts : Text.parts sep "" = ps := empty ▸ Text.parts_join ne h
  have mem : "" ∈ ps := by
    rw [← parts]
    simp [Text.parts]
  exact full "" mem rfl

/-- A list is read item by item. -/
theorem mapM_eq_ok_iff {α β ε : Type} {parse : β → Except ε α} {texts : List β} {xs : List α} :
    texts.mapM parse = .ok xs ↔ List.Forall₂ (fun text x => parse text = .ok x) texts xs := by
  induction texts generalizing xs with
  | nil => cases xs <;> simp [pure, Except.pure]
  | cons text texts ih =>
    rw [List.mapM_cons, List.forall₂_cons_left_iff]
    cases first : parse text with
    | error e => simp [bind, Except.bind]
    | ok x =>
      cases rest : texts.mapM parse with
      | error e =>
        simp only [← ih, rest, reduceCtorEq, false_and, and_false, exists_false]
        simp [bind, Except.bind]
      | ok others =>
        simp only [← ih, rest, Except.ok.injEq]
        simp [bind, Except.bind, pure, Except.pure, eq_comm]

/-- A list is read if every item is. -/
theorem exists_mapM_eq_ok_iff {α β ε : Type} {parse : β → Except ε α} {texts : List β} :
    (∃ xs, texts.mapM parse = .ok xs) ↔ ∀ text ∈ texts, ∃ x, parse text = .ok x := by
  simp only [mapM_eq_ok_iff]
  induction texts with
  | nil => simp
  | cons text texts ih =>
    rw [List.forall_mem_cons, ← ih]
    constructor
    · rintro ⟨xs, each⟩
      obtain ⟨x, others, first, rest, -⟩ := List.forall₂_cons_left_iff.mp each
      exact ⟨⟨x, first⟩, others, rest⟩
    · rintro ⟨⟨x, first⟩, others, rest⟩
      exact ⟨x :: others, .cons first rest⟩

/-- A list that is not read has an item that is not. -/
theorem exists_of_mapM_eq_error {α β ε : Type} {parse : β → Except ε α} {texts : List β} {e : ε}
    (h : texts.mapM parse = .error e) : ∃ text ∈ texts, parse text = .error e := by
  induction texts with
  | nil => cases h
  | cons text texts ih =>
    rw [List.mapM_cons] at h
    cases first : parse text with
    | error own =>
      rw [first] at h
      cases h
      exact ⟨text, List.mem_cons_self, first⟩
    | ok x =>
      cases rest : texts.mapM parse with
      | error own =>
        rw [first, rest] at h
        cases h
        obtain ⟨other, mem, faulty⟩ := ih rest
        exact ⟨other, List.mem_cons_of_mem _ mem, faulty⟩
      | ok others =>
        rw [first, rest] at h
        cases h

/-- What is read from the spellings of a list is the list. -/
theorem mapM_spellings {α β ε : Type} {spell : α → β} {parse : β → Except ε α}
    (inverse : ∀ x, parse (spell x) = .ok x) (xs : List α) :
    (xs.map spell).mapM parse = .ok xs := by
  rw [mapM_eq_ok_iff, List.forall₂_map_left_iff, List.forall₂_same]
  exact fun x _ => inverse x

/-! ## Action patterns -/

namespace ActionSegment

variable (segment : ActionSegment)

theorem text_ne_empty : segment.text ≠ "" := by
  cases segment with
  | literal t => exact t.text_ne_empty
  | any => decide

theorem dot_notMem : '.' ∉ segment.text.toList := by
  cases segment with
  | literal t => exact t.sep_notMem
  | any => decide

theorem read_text : read segment.text = .ok segment := by
  cases segment with
  | literal t =>
    have star : t.text ≠ "*" := t.text_ne (c := '*') (by decide) (by decide)
    simp [read, text, t.text_ne_empty, star, t.plain]
  | any => rfl

end ActionSegment

namespace ActionPattern

variable (pattern : ActionPattern)

theorem dot_notMem {part : String} (h : part ∈ pattern.segments.map (·.text)) :
    '.' ∉ part.toList := by
  obtain ⟨segment, -, rfl⟩ := List.mem_map.mp h
  exact segment.dot_notMem

theorem text_ne_empty : pattern.text ≠ "" := by
  refine Text.join_ne_empty (by simpa using pattern.nonempty) (fun part => pattern.dot_notMem) ?_
  intro part h
  obtain ⟨segment, -, rfl⟩ := List.mem_map.mp h
  exact segment.text_ne_empty

/-- **The spelling of an action pattern is read as the pattern.** -/
theorem parse_text : parse pattern.text = .ok pattern := by
  have parts : Text.parts '.' pattern.text = pattern.segments.map (·.text) :=
    Text.parts_join (by simpa using pattern.nonempty) fun part => pattern.dot_notMem
  have reads : (Text.parts '.' pattern.text).mapM ActionSegment.read = .ok pattern.segments := by
    rw [parts]
    exact mapM_spellings ActionSegment.read_text pattern.segments
  unfold parse
  rw [if_neg pattern.text_ne_empty]
  split
  · rename_i fault faulty
    rw [reads] at faulty
    cases faulty
  · rename_i segments read
    rw [reads] at read
    cases read
    rfl

end ActionPattern

/-! ## Object patterns -/

namespace ObjectSegment

variable (segment : ObjectSegment)

theorem text_ne_empty : segment.text ≠ "" := by
  cases segment with
  | literal t => exact t.text_ne_empty
  | any => decide
  | capture n => simp [text]

theorem slash_notMem : '/' ∉ segment.text.toList := by
  cases segment with
  | literal t => exact t.sep_notMem
  | any => decide
  | capture n => simp [text, n.slash_notMem]

/-- No segment is spelled like the wildcard for all segments that are left. -/
theorem text_ne_rest : segment.text ≠ "**" := by
  cases segment with
  | literal t => exact t.text_ne (c := '*') (by decide) (by decide)
  | any => decide
  | capture n =>
    intro h
    have characters := congrArg String.toList h
    simp [text] at characters

theorem read_text : read segment.text = .ok segment := by
  cases segment with
  | literal t =>
    have star : t.text ≠ "*" := t.text_ne (c := '*') (by decide) (by decide)
    simp only [read, text, t.text_ne_empty, star, if_false]
    split
    · rename_i inner characters
      have reserved := t.isReserved_of_mem (c := '\x7b') (by simp [characters])
      cases reserved
    · exact dif_pos t.plain
  | any => rfl
  | capture n =>
    have characters : (text (.capture n)).toList = '\x7b' :: (n.name.toList ++ ['\x7d']) := by
      simp [text]
    have star : text (.capture n) ≠ "*" := by
      intro h
      rw [h] at characters
      cases characters
    have name : beforeBrace? (n.name.toList ++ ['\x7d']) = some n.name := by
      simp [beforeBrace?]
    simp only [read, text_ne_empty, star, if_false, characters, name, n.wellFormed, dif_pos]

end ObjectSegment

namespace ObjectPattern

variable (pattern : ObjectPattern)

theorem spellings_ne_nil : pattern.spellings ≠ [] := by
  rcases pattern.nonempty with h | h
  · simp [spellings, h]
  · simp [spellings, h]

/-- A spelling is that of a segment, or it is the closing wildcard. -/
theorem of_mem_spellings {part : String} (h : part ∈ pattern.spellings) :
    (∃ segment : ObjectSegment, part = segment.text) ∨ part = "**" := by
  rw [spellings, List.mem_append] at h
  rcases h with h | h
  · obtain ⟨segment, -, rfl⟩ := List.mem_map.mp h
    exact .inl ⟨segment, rfl⟩
  · split at h
    · exact .inr (List.mem_singleton.mp h)
    · cases h

theorem slash_notMem {part : String} (h : part ∈ pattern.spellings) : '/' ∉ part.toList := by
  rcases pattern.of_mem_spellings h with ⟨segment, rfl⟩ | rfl
  · exact segment.slash_notMem
  · decide

theorem text_ne_empty : pattern.text ≠ "" := by
  refine Text.join_ne_empty pattern.spellings_ne_nil (fun part => pattern.slash_notMem) ?_
  intro part h
  rcases pattern.of_mem_spellings h with ⟨segment, rfl⟩ | rfl
  · exact segment.text_ne_empty
  · decide

/-- Reading the spellings of segments, and of the closing wildcard, gives both back. -/
theorem readParts_spellings (segments : List ObjectSegment) (hasRest : Bool) :
    readParts (segments.map (·.text) ++ if hasRest then ["**"] else []) =
      .ok (segments, hasRest) := by
  induction segments with
  | nil => cases hasRest <;> rfl
  | cons segment segments ih =>
    rw [List.map_cons, List.cons_append, readParts, if_neg segment.text_ne_rest,
      segment.read_text, ih]

/-- **The spelling of an object pattern is read as the pattern.** -/
theorem parse_text : parse pattern.text = .ok pattern := by
  have parts : Text.parts '/' pattern.text = pattern.spellings :=
    Text.parts_join pattern.spellings_ne_nil fun part => pattern.slash_notMem
  have reads : readParts (Text.parts '/' pattern.text) =
      .ok (pattern.segments, pattern.hasRest) := by
    rw [parts]
    exact readParts_spellings pattern.segments pattern.hasRest
  unfold parse
  rw [if_neg pattern.text_ne_empty]
  split
  · rename_i fault faulty
    rw [reads] at faulty
    cases faulty
  · rename_i segments hasRest read
    rw [reads] at read
    cases read
    rfl

end ObjectPattern

end Gatehouse
