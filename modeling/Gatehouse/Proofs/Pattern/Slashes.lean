import Gatehouse.Proofs.Pattern.Grammar

/-!
# Dots for slashes

Names of actions and tasks have dots between their parts and paths have slashes, and each kind of
pattern is read and matched in its own way.  An action pattern walks through a name and stops when
either of them ends; an object pattern carries bindings along, and looks at what is left in the
end.  Here the two are compared: put a slash for each dot (`Text.slashed`), and an action pattern
is read as an object pattern that describes the same names.

Slashes that are there already would make more parts than the dots do, so there must be none.

### What is load-bearing

A segment of an object pattern that is spelled like a segment of an action pattern is no capture
(`ObjectSegment.bind?_of_text_eq`).  So nothing is bound on the way, and what the object pattern
carries along is what it has been given.
-/

namespace Gatehouse

namespace Text

/-- The text with a slash for each dot. -/
def slashed (text : String) : String := text.map fun c => if c = '.' then '/' else c

theorem cut_map_slash {cs : List Char} (slashless : '/' ∉ cs) :
    cut '/' (cs.map fun c => if c = '.' then '/' else c) = cut '.' cs := by
  induction cs with
  | nil => rfl
  | cons c cs ih =>
    simp only [List.mem_cons, not_or] at slashless
    obtain ⟨first, rest⟩ := slashless
    rw [List.map_cons]
    by_cases dot : c = '.'
    · rw [if_pos dot, dot, cut_cons_self, cut_cons_self, ih rest]
    · rw [if_neg dot, cut_cons_ne (Ne.symm first), cut_cons_ne dot, ih rest]

/-- **Cut at its slashes, the text has the parts that it had between dots.** -/
theorem parts_slashed {text : String} (slashless : '/' ∉ text.toList) :
    parts '/' (slashed text) = parts '.' text := by
  unfold parts slashed
  rw [String.toList_map, cut_map_slash slashless]

end Text

/-! ## Segments that are spelled alike -/

theorem ActionPart.objectPart {part : String} (grammatical : ActionPart part) :
    ObjectPart part := by
  cases grammatical with
  | any => exact .any
  | literal part plain => exact .literal part plain

/-- **A segment that is spelled like one of an action** fits the parts that the other one admits,
and binds nothing. -/
theorem ObjectSegment.bind?_of_text_eq {action : ActionSegment} {object : ObjectSegment}
    (same : object.text = action.text) (part : String) (bindings : Bindings) :
    object.bind? part bindings = if action.admits part then some bindings else none := by
  cases object with
  | literal t =>
    cases action with
    | literal u =>
      have texts : t.text = u.text := same
      simp [bind?, ActionSegment.admits, texts]
    | any => exact absurd same (t.text_ne (c := '*') (by decide) (by decide))
  | any =>
    cases action with
    | literal u => exact absurd same.symm (u.text_ne (c := '*') (by decide) (by decide))
    | any => simp [bind?, ActionSegment.admits]
  | capture n =>
    have brace : '\x7b' ∈ (text (.capture n)).toList := by simp [text]
    rw [same] at brace
    cases action with
    | literal u =>
      have reserved := u.isReserved_of_mem brace
      cases reserved
    | any => exact absurd brace (by decide)

/-- Segments that are spelled alike, one by one, fit the same parts. -/
theorem ObjectPattern.matchParts_of_text_eq {actions : List ActionSegment}
    {objects : List ObjectSegment}
    (alike : List.Forall₂ (fun action object => object.text = action.text) actions objects)
    (parts : List String) (bindings : Bindings) :
    matchParts false objects parts bindings =
      if ActionPattern.admitAll actions parts then some bindings else none := by
  induction alike generalizing parts with
  | nil => cases parts <;> rfl
  | @cons action object actions objects same _ ih =>
    cases parts with
    | nil => rfl
    | cons part parts =>
      rw [matchParts_cons_cons, ObjectSegment.bind?_of_text_eq same, ActionPattern.admitAll]
      cases action.admits part with
      | true => exact ih parts
      | false => rfl

/-! ## Patterns -/

/-- **A dotted pattern is an object pattern with slashes**: it is read as one, which describes a
name with slashes if the dotted pattern admits the name, and binds nothing then. -/
theorem ActionPattern.exists_slashed {text : String} {pattern : ActionPattern}
    (read : parse text = .ok pattern) (slashless : '/' ∉ text.toList) :
    ∃ object, ObjectPattern.parse (Text.slashed text) = .ok object ∧
      ∀ name, '/' ∉ name.toList → ∀ prebound,
        object.bindingsWith? (Text.slashed name) prebound =
          if pattern.admits name then some prebound else none := by
  have spelled : pattern.segments.map (·.text) = Text.parts '.' text :=
    ActionPattern.parse_eq_ok_iff.mp read
  have sameParts : Text.parts '/' (Text.slashed text) = Text.parts '.' text :=
    Text.parts_slashed slashless
  -- Every part is a segment in both notations, since it has neither a dot nor a slash in it.
  have each : ∀ part ∈ Text.parts '.' text, ∃ object : ObjectSegment, object.text = part := by
    intro part mem
    have dotless : '.' ∉ part.toList := Text.notMem_toList_of_mem_parts mem
    have grammatical : ActionPart part := by
      rw [← spelled, List.mem_map] at mem
      obtain ⟨action, -, same⟩ := mem
      exact (ActionSegment.exists_text_eq_iff dotless).mp ⟨action, same⟩
    have free : '/' ∉ part.toList := Text.notMem_toList_of_mem_parts (sameParts ▸ mem)
    exact (ObjectSegment.exists_text_eq_iff free).mpr grammatical.objectPart
  obtain ⟨objects, spelledAlike⟩ := exists_map_eq_iff.mpr each
  have alike : List.Forall₂ (fun action object => object.text = action.text)
      pattern.segments objects := by
    have texts : pattern.segments.map (·.text) = objects.map (·.text) :=
      spelled.trans spelledAlike.symm
    rw [← List.forall₂_eq_eq_eq, List.forall₂_map_left_iff, List.forall₂_map_right_iff] at texts
    exact texts.imp fun _ _ same => same.symm
  have some : objects ≠ [] := by
    rintro rfl
    exact Text.parts_ne_nil _ _ spelledAlike.symm
  refine ⟨⟨objects, false, Or.inl some⟩, ?_, ?_⟩
  · rw [ObjectPattern.parse_eq_ok_iff, sameParts, ← spelledAlike]
    exact List.append_nil _
  · intro name free prebound
    unfold ObjectPattern.bindingsWith? admits
    rw [Text.parts_slashed free]
    exact ObjectPattern.matchParts_of_text_eq alike _ prebound

/-- **Dotted patterns match as patterns of paths do.**  Take a text that is read as an action
pattern, and any name, neither of them with a slash in it.  With a slash for each dot the text is
read as an object pattern, and the action pattern admits the name exactly if the object pattern
describes the name with a slash for each dot. -/
theorem dotted_patterns_match_as_paths {text : String} {pattern : ActionPattern}
    (read : ActionPattern.parse text = .ok pattern) (slashless : '/' ∉ text.toList) :
    ∃ object, ObjectPattern.parse (Text.slashed text) = .ok object ∧
      ∀ name, '/' ∉ name.toList →
        (pattern.admits name = true ↔ (object.bindings? (Text.slashed name)).isSome = true) := by
  obtain ⟨object, readAsPath, describes⟩ := ActionPattern.exists_slashed read slashless
  refine ⟨object, readAsPath, fun name free => ?_⟩
  rw [ObjectPattern.bindings?, describes name free]
  cases pattern.admits name <;> simp

/-- A wildcard fits a part in both notations, but an empty part in neither. -/
theorem wildcard_fits_alike_in_both_notations :
    ∃ pattern, ActionPattern.parse "export.*" = .ok pattern ∧ '/' ∉ "export.*".toList ∧
      ∃ object, ObjectPattern.parse (Text.slashed "export.*") = .ok object ∧
        (object.bindings? (Text.slashed "export.pdf")).isSome = true ∧
        (object.bindings? (Text.slashed "export.")).isSome = false := by
  let pattern : ActionPattern := ⟨[.literal ⟨"export", by decide⟩, .any], by simp⟩
  have read : ActionPattern.parse "export.*" = .ok pattern := pattern.parse_text
  have slashless : '/' ∉ "export.*".toList := by decide
  obtain ⟨object, readAsPath, same⟩ := dotted_patterns_match_as_paths read slashless
  refine ⟨pattern, read, slashless, object, readAsPath, ?_, ?_⟩
  · rw [← same "export.pdf" (by decide)]
    decide
  · rw [Bool.eq_false_iff, Ne, ← same "export." (by decide)]
    decide

end Gatehouse
