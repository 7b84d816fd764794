/-!
# Texts

What the rest of the library asks of a text, whatever the text is about.

*Parts.*  Object paths are parts between slashes and action names are parts between dots.
`parts` cuts a text at a separator and `join` puts the separator back.

The cut is total and keeps everything: a text without the separator is one part,
the empty text is one empty part, and two neighbouring separators have an empty
part between them.  So `join` undoes `parts` without a side condition
(`join_parts`), and `parts` undoes `join` on any non-empty list of parts that are
free of the separator (`parts_join`).  Both facts are inductions on the
characters, which is why the work is done on `List Char`.

*Blanks.*  A name that consists of white space only names nothing, so policies, roles and
configured subjects all ask the one question `isBlank`.

White space is the Unicode property of that name, given here as the finite list
of its code points.  The list matters: it is wider than the ASCII blanks, and it
leaves out the zero width space and the byte order mark, which therefore count
as content.
-/

namespace Gatehouse.Text

/-! ## Parts -/

/-- Cut a list of characters at every `sep`. -/
def cut (sep : Char) : List Char → List (List Char)
  | [] => [[]]
  | c :: cs => if c = sep then [] :: cut sep cs else (cut sep cs).modifyHead (c :: ·)

@[simp] theorem cut_nil (sep : Char) : cut sep [] = [[]] := rfl

theorem cut_cons_self (sep : Char) (cs : List Char) : cut sep (sep :: cs) = [] :: cut sep cs := by
  simp [cut]

theorem cut_cons_ne {sep c : Char} (h : c ≠ sep) (cs : List Char) :
    cut sep (c :: cs) = (cut sep cs).modifyHead (c :: ·) := by
  simp [cut, h]

theorem cut_ne_nil (sep : Char) (cs : List Char) : cut sep cs ≠ [] := by
  induction cs with
  | nil => simp
  | cons c cs ih =>
    by_cases h : c = sep
    · simp [cut, h]
    · cases hc : cut sep cs with
      | nil => exact absurd hc ih
      | cons p ps => simp [cut, h, hc]

/-- No part holds the separator. -/
theorem notMem_of_mem_cut {sep : Char} {cs : List Char} :
    ∀ p ∈ cut sep cs, sep ∉ p := by
  induction cs with
  | nil => simp
  | cons c cs ih =>
    by_cases h : c = sep
    · intro p hp
      rw [h, cut_cons_self, List.mem_cons] at hp
      rcases hp with rfl | hp
      · simp
      · exact ih p hp
    · intro p hp
      rw [cut_cons_ne h] at hp
      cases hc : cut sep cs with
      | nil => exact absurd hc (cut_ne_nil sep cs)
      | cons q qs =>
        rw [hc] at hp ih
        simp only [List.modifyHead_cons, List.mem_cons] at hp
        rcases hp with rfl | hp
        · simp only [List.mem_cons, not_or]
          exact ⟨fun e => h e.symm, ih q List.mem_cons_self⟩
        · exact ih p (List.mem_cons_of_mem _ hp)

/-- Gluing the parts with the separator gives the characters back. -/
theorem intercalate_cut (sep : Char) (cs : List Char) :
    [sep].intercalate (cut sep cs) = cs := by
  induction cs with
  | nil => simp [List.intercalate]
  | cons c cs ih =>
    cases hc : cut sep cs with
    | nil => exact absurd hc (cut_ne_nil sep cs)
    | cons q qs =>
      rw [hc] at ih
      by_cases h : c = sep
      · subst h
        rw [cut_cons_self, hc, List.intercalate_cons_cons, ih]
        simp
      · rw [cut_cons_ne h, hc]
        cases qs with
        | nil => simpa [List.intercalate] using ih
        | cons r rs =>
          simp only [List.modifyHead_cons, List.intercalate_cons_cons] at ih ⊢
          simp [← ih]

/-- A part without the separator, followed by the end, is cut into itself. -/
theorem cut_of_notMem {sep : Char} {p : List Char} (h : sep ∉ p) : cut sep p = [p] := by
  induction p with
  | nil => rfl
  | cons c cs ih =>
    simp only [List.mem_cons, not_or] at h
    rw [cut_cons_ne (fun e => h.1 e.symm), ih h.2]
    rfl

/-- A part without the separator, followed by the separator, is cut off. -/
theorem cut_append_cons {sep : Char} {p : List Char} (h : sep ∉ p) (rest : List Char) :
    cut sep (p ++ sep :: rest) = p :: cut sep rest := by
  induction p with
  | nil => simp [cut_cons_self]
  | cons c cs ih =>
    simp only [List.mem_cons, not_or] at h
    rw [List.cons_append, cut_cons_ne (fun e => h.1 e.symm), ih h.2]
    rfl

/-- Cutting undoes gluing. -/
theorem cut_intercalate {sep : Char} {ps : List (List Char)} (ne : ps ≠ [])
    (h : ∀ p ∈ ps, sep ∉ p) : cut sep ([sep].intercalate ps) = ps := by
  induction ps with
  | nil => exact absurd rfl ne
  | cons p ps ih =>
    cases ps with
    | nil =>
      have hp := h p List.mem_cons_self
      simpa [List.intercalate] using cut_of_notMem hp
    | cons q qs =>
      rw [List.intercalate_cons_cons]
      have := ih (by simp) (fun r hr => h r (List.mem_cons_of_mem _ hr))
      rw [List.append_assoc, List.singleton_append, cut_append_cons (h p List.mem_cons_self), this]

/-! ## The same on texts -/

/-- The parts of a text between the separators, in order. -/
def parts (sep : Char) (text : String) : List String := (cut sep text.toList).map String.ofList

/-- The text that has these parts. -/
def join (sep : Char) (ps : List String) : String :=
  String.ofList ([sep].intercalate (ps.map String.toList))

theorem parts_ne_nil (sep : Char) (text : String) : parts sep text ≠ [] := by
  simp [parts, cut_ne_nil]

theorem notMem_toList_of_mem_parts {sep : Char} {text part : String}
    (h : part ∈ parts sep text) : sep ∉ part.toList := by
  simp only [parts, List.mem_map] at h
  obtain ⟨cs, hcs, rfl⟩ := h
  simpa using notMem_of_mem_cut cs hcs

/-- **Nothing is lost in a cut.** -/
theorem join_parts (sep : Char) (text : String) : join sep (parts sep text) = text := by
  have : (parts sep text).map String.toList = cut sep text.toList := by
    simp [parts, List.map_map, Function.comp_def]
  rw [join, this, intercalate_cut, String.ofList_toList]

/-- **Joined parts are cut where they were joined.** -/
theorem parts_join {sep : Char} {ps : List String} (ne : ps ≠ [])
    (h : ∀ p ∈ ps, sep ∉ p.toList) : parts sep (join sep ps) = ps := by
  have hc : cut sep ([sep].intercalate (ps.map String.toList)) = ps.map String.toList := by
    apply cut_intercalate (by simpa using ne)
    intro p hp
    obtain ⟨q, hq, rfl⟩ := List.mem_map.mp hp
    exact h q hq
  simp [parts, join, hc, List.map_map, Function.comp_def]

/-! ## Blanks -/

/-- A character with the Unicode property `White_Space`. -/
def isBlankChar (c : Char) : Bool :=
  let n := c.toNat
  (0x09 ≤ n && n ≤ 0x0D) || n == 0x20 || n == 0x85 || n == 0xA0 || n == 0x1680 ||
    (0x2000 ≤ n && n ≤ 0x200A) || n == 0x2028 || n == 0x2029 || n == 0x202F ||
    n == 0x205F || n == 0x3000

/-- A text without a single character that is not white space.  The empty text
is blank. -/
def isBlank (text : String) : Bool := text.toList.all isBlankChar

theorem isBlank_eq_false_iff (text : String) :
    isBlank text = false ↔ ∃ c ∈ text.toList, isBlankChar c = false := by
  simp [isBlank]

end Gatehouse.Text
