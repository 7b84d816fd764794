import Gatehouse.Environment

/-!
# How a text is read for references

What the references of a text are is said here without cutting it into lines: `Reads line text
passages` takes a text apart from the left to the right, into references that count, line breaks
and characters that stand for themselves.  All it has to know of what came before is what stands
on the line already, for a reference counts only if no number sign is in there.

A text can be read in one way only (`Reads.unique`), and its lines, each taken apart for itself,
give that way (`Cut.reads`).

### What is load-bearing

A reference does not reach beyond its line (`reference?_append_ne`).  It has no line feed, and it
ends with a closing brace (`reaches_beyond`).  So what of it stood beyond the line would have to
come to the brace before any line feed, and at the end of a line there is no room for that.
-/

namespace Gatehouse.References

/-! ## How a text is read -/

/-- A piece of a text. -/
inductive Passage where
  /-- A character that stands for itself. -/
  | kept (c : Char)
  /-- A reference that counts. -/
  | reference (name : List Char)
  /-- A line break, which has a carriage return before the line feed or not. -/
  | lineBreak (withReturn : Bool)
  deriving DecidableEq, Repr

namespace Passage

/-- The characters of a piece, as they stand in the text. -/
def written : Passage → List Char
  | kept c => [c]
  | reference name => (Fragment.reference name).chars
  | lineBreak true => ['\r', '\n']
  | lineBreak false => ['\n']

end Passage

/-- A name of a reference: not empty, and without a closing brace or a line break. -/
structure IsName (name : List Char) : Prop where
  nonempty : name ≠ []
  brace_notMem : '\x7d' ∉ name
  newline_notMem : '\n' ∉ name

/-- **How a text is read**, from the left to the right, where `line` is what stands on the line
already.  A reference counts if no number sign stands before it on its line.  A character stands
for itself if it belongs to no line break and no reference that counts begins with it. -/
inductive Reads : (line text : List Char) → List Passage → Prop where
  | done {line : List Char} : Reads line [] []
  | lineBreak {line rest : List Char} {passages : List Passage} (further : Reads [] rest passages) :
      Reads line ('\n' :: rest) (.lineBreak false :: passages)
  | returnBreak {line rest : List Char} {passages : List Passage}
      (further : Reads [] rest passages) :
      Reads line ('\r' :: '\n' :: rest) (.lineBreak true :: passages)
  | reference {line name rest : List Char} {passages : List Passage} (named : IsName name)
      (clear : '#' ∉ line)
      (further : Reads (line ++ (Fragment.reference name).chars) rest passages) :
      Reads line ((Fragment.reference name).chars ++ rest) (.reference name :: passages)
  | kept {line rest : List Char} {c : Char} {passages : List Passage} (notBreak : c ≠ '\n')
      (notReturn : c = '\r' → rest.head? ≠ some '\n')
      (notReference : '#' ∉ line → ∀ name left, IsName name →
        c :: rest ≠ (Fragment.reference name).chars ++ left)
      (further : Reads (line ++ [c]) rest passages) :
      Reads line (c :: rest) (.kept c :: passages)

namespace Reads

variable {line text : List Char} {passages : List Passage}

/-- Nothing of the text is lost. -/
theorem written (reads : Reads line text passages) : passages.flatMap (·.written) = text := by
  induction reads with
  | done => rfl
  | lineBreak further ih => rw [List.flatMap_cons, ih]; rfl
  | returnBreak further ih => rw [List.flatMap_cons, ih]; rfl
  | reference named clear further ih => rw [List.flatMap_cons, ih]; rfl
  | kept notBreak notReturn notReference further ih => rw [List.flatMap_cons, ih]; rfl

end Reads

/-! ## References -/

theorem nameBefore?_append {name : List Char} (closed : '\x7d' ∉ name) (left : List Char) :
    nameBefore? (name ++ '\x7d' :: left) = some (name, left) := by
  induction name with
  | nil => simp [nameBefore?]
  | cons c name ih =>
    simp only [List.mem_cons, not_or] at closed
    rw [List.cons_append, nameBefore?, ih closed.2]
    · rfl
    · exact Ne.symm closed.1

theorem eq_append_of_nameBefore? {cs name left : List Char}
    (h : nameBefore? cs = some (name, left)) : cs = name ++ '\x7d' :: left ∧ '\x7d' ∉ name := by
  induction cs generalizing name with
  | nil => cases h
  | cons c cs ih =>
    unfold nameBefore? at h
    split at h
    · cases h
    · rename_i heq
      cases heq
      cases h
      simp
    · rename_i other heq
      cases heq
      obtain ⟨⟨behind, _⟩, found, same⟩ := Option.map_eq_some_iff.mp h
      cases same
      obtain ⟨rfl, closed⟩ := ih found
      refine ⟨rfl, ?_⟩
      simp only [List.mem_cons, not_or]
      exact ⟨fun brace => other brace.symm, closed⟩

/-- **A reference begins a text** if the text can be written so. -/
theorem reference?_eq_some_iff {cs name left : List Char} :
    reference? cs = some (name, left) ↔
      cs = (Fragment.reference name).chars ++ left ∧ name ≠ [] ∧ '\x7d' ∉ name := by
  constructor
  · intro h
    unfold reference? at h
    split at h
    · split at h
      · rename_i found
        cases h
        obtain ⟨rfl, closed⟩ := eq_append_of_nameBefore? found
        exact ⟨by simp [Fragment.chars], by simp, closed⟩
      · cases h
    · cases h
  · rintro ⟨rfl, nonempty, closed⟩
    obtain ⟨first, rest, rfl⟩ := List.exists_cons_of_ne_nil nonempty
    have behind := nameBefore?_append closed left
    simp only [Fragment.chars, List.cons_append, List.append_assoc, List.nil_append, reference?]
      at behind ⊢
    rw [behind]

/-- A reference determines its name and what follows it. -/
theorem eq_of_chars_append_eq {name other left rest : List Char} (named : IsName name)
    (named' : IsName other)
    (same : (Fragment.reference name).chars ++ left = (Fragment.reference other).chars ++ rest) :
    other = name ∧ rest = left := by
  have first : reference? ((Fragment.reference name).chars ++ left) = some (name, left) :=
    reference?_eq_some_iff.mpr ⟨rfl, named.nonempty, named.brace_notMem⟩
  have second := reference?_eq_some_iff.mpr ⟨same, named'.nonempty, named'.brace_notMem⟩
  cases first.symm.trans second
  exact ⟨rfl, rfl⟩

/-- **There is one way to read a text.** -/
theorem Reads.unique {line text : List Char} {passages others : List Passage}
    (reads : Reads line text passages) (reads' : Reads line text others) : others = passages := by
  induction reads generalizing others with
  | done =>
    cases reads' with
    | done => rfl
  | lineBreak further ih =>
    cases reads' with
    | lineBreak further' => rw [ih further']
    | kept notBreak => exact absurd rfl notBreak
  | returnBreak further ih =>
    cases reads' with
    | returnBreak further' => rw [ih further']
    | kept notBreak notReturn => exact absurd rfl (notReturn rfl)
  | @reference line name rest passages named clear further ih =>
    generalize written : (Fragment.reference name).chars ++ rest = text at reads'
    cases reads' with
    | reference named' clear' further' =>
      obtain ⟨rfl, rfl⟩ := eq_of_chars_append_eq named named' written
      rw [ih further']
    | kept notBreak notReturn notReference =>
      exact absurd written.symm (notReference clear name rest named)
    | _ => cases written
  | @kept line rest c passages notBreak notReturn notReference further ih =>
    generalize written : c :: rest = text at reads'
    cases reads' with
    | reference named clear further' =>
      exact absurd written (notReference clear _ _ named)
    | kept notBreak' notReturn' notReference' further' =>
      cases written
      rw [ih further']
    | lineBreak =>
      cases written
      exact absurd rfl notBreak
    | returnBreak =>
      cases written
      exact absurd rfl (notReturn rfl)
    | done => cases written

/-! ## A line -/

theorem fragments_of_reference? {cs name left : List Char}
    (h : reference? cs = some (name, left)) :
    fragments cs = .reference name :: fragments left := by
  cases cs with
  | nil => cases h
  | cons c rest =>
    rw [fragments]
    split
    · rename_i found
      cases h.symm.trans found
      rfl
    · rename_i found
      cases h.symm.trans found

theorem fragments_cons {c : Char} {rest : List Char} (h : reference? (c :: rest) = none) :
    fragments (c :: rest) = .char c :: fragments rest := by
  rw [fragments]
  split
  · rename_i found
    cases h.symm.trans found
  · rfl

/-- The pieces that a fragment stands for, where `line` is what stands on the line already. -/
def Fragment.passages (line : List Char) : Fragment → List Passage
  | .char c => [.kept c]
  | .reference name =>
    if '#' ∈ line then (Fragment.reference name).chars.map .kept else [.reference name]

/-- The pieces that the fragments of a line stand for. -/
def fragmentPassages (line : List Char) : List Fragment → List Passage
  | [] => []
  | fragment :: rest =>
    fragment.passages line ++ fragmentPassages (line ++ fragment.chars) rest

/-- What a line can end at: the end of the text, or a line break. -/
inductive EndsLine : List Char → Prop where
  | done : EndsLine []
  | lineBreak {rest : List Char} : EndsLine ('\n' :: rest)
  | returnBreak {rest : List Char} : EndsLine ('\r' :: '\n' :: rest)

/-- **A reference that reaches beyond a text** has its closing brace there, and no line feed
before the brace. -/
theorem reaches_beyond {cs tail name left : List Char} (named : IsName name)
    (absent : reference? cs = none)
    (same : cs ++ tail = (Fragment.reference name).chars ++ left) :
    ∃ beyond, '\n' ∉ beyond ∧ tail = beyond ++ '\x7d' :: left := by
  obtain ⟨beyond, chars, rfl⟩ | ⟨inside, chars, rfl⟩ := List.append_eq_append_iff.mp same
  · obtain rfl | ⟨front, last, rfl⟩ := List.eq_nil_or_concat beyond
    · have whole : reference? cs = some (name, []) :=
        reference?_eq_some_iff.mpr
          ⟨by rw [chars, List.append_nil, List.append_nil], named.nonempty, named.brace_notMem⟩
      cases absent.symm.trans whole
    · rw [Fragment.chars, List.concat_eq_append, ← List.append_assoc] at chars
      obtain ⟨before, close⟩ := List.append_inj' chars rfl
      cases close
      refine ⟨front, fun feed => ?_, by simp⟩
      have among : '\n' ∈ '$' :: '\x7b' :: name := by
        rw [before]
        exact List.mem_append_right cs feed
      simp [named.newline_notMem] at among
  · have whole : reference? cs = some (name, inside) :=
      reference?_eq_some_iff.mpr ⟨chars, named.nonempty, named.brace_notMem⟩
    cases absent.symm.trans whole

/-- **A reference does not reach beyond its line.** -/
theorem reference?_append_ne {cs tail name left : List Char} (ends : EndsLine tail)
    (named : IsName name) (absent : reference? cs = none) :
    cs ++ tail ≠ (Fragment.reference name).chars ++ left := by
  intro same
  obtain ⟨beyond, feed, split⟩ := reaches_beyond named absent same
  cases ends with
  | done => simp at split
  | lineBreak =>
    cases beyond with
    | nil => cases split
    | cons c beyond =>
      cases split
      simp at feed
  | returnBreak =>
    match beyond with
    | [] => cases split
    | [c] => cases split
    | c :: d :: beyond =>
      cases split
      simp at feed

theorem head?_append_ne {cs text : List Char} (newline : '\n' ∉ cs)
    (behind : cs = [] → text.head? ≠ some '\n') : (cs ++ text).head? ≠ some '\n' := by
  cases cs with
  | nil => exact behind rfl
  | cons c cs =>
    intro head
    cases head
    exact newline List.mem_cons_self

namespace Reads

/-- **Characters stand for themselves** where no reference can count: behind a number sign, or
where none begins. -/
theorem append_kept {line cs text : List Char} {passages : List Passage}
    (free : '#' ∈ line ∨ '$' ∉ cs) (newline : '\n' ∉ cs)
    (notReturn : cs.getLast? = some '\r' → text.head? ≠ some '\n')
    (further : Reads (line ++ cs) text passages) :
    Reads line (cs ++ text) (cs.map .kept ++ passages) := by
  induction cs generalizing line with
  | nil => simpa using further
  | cons c cs ih =>
    simp only [List.mem_cons, not_or] at free newline
    have rest : Reads (line ++ [c]) (cs ++ text) (cs.map .kept ++ passages) := by
      refine ih (free.imp (List.mem_append_left [c]) And.right) newline.2
        (fun last => notReturn ?_) (by rwa [List.append_assoc])
      rw [List.getLast?_cons, last]
      rfl
    refine .kept (Ne.symm newline.1) (fun isReturn => ?_) (fun clear name left _ same => ?_) rest
    · exact head?_append_ne newline.2 fun last => notReturn (by rw [last, isReturn]; rfl)
    · exact (free.resolve_left clear).1 (List.cons.inj same).1.symm

/-- **How a line is read.** -/
theorem of_line {cs tail : List Char} {passages : List Passage} (newline : '\n' ∉ cs)
    (ends : EndsLine tail) (notReturn : cs.getLast? = some '\r' → tail.head? ≠ some '\n')
    (further : ∀ line, Reads line tail passages) (line : List Char) :
    Reads line (cs ++ tail) (fragmentPassages line (fragments cs) ++ passages) := by
  induction cs using fragments.induct generalizing line with
  | case1 =>
    rw [fragments]
    exact further line
  | case2 c rest name left found ih =>
    rw [fragments_of_reference? found, fragmentPassages]
    obtain ⟨written, nonempty, brace⟩ := reference?_eq_some_iff.mp found
    rw [written] at newline notReturn ⊢
    simp only [List.mem_append, not_or] at newline
    have named : IsName name := ⟨nonempty, brace, by
      intro mem
      exact newline.1 (by simp [Fragment.chars, mem])⟩
    have behind := ih newline.2
      (fun last => notReturn (by rw [List.getLast?_append, last]; rfl))
      (line ++ (Fragment.reference name).chars)
    rw [List.append_assoc, List.append_assoc, Fragment.passages]
    split
    · rename_i sign
      refine append_kept (.inl sign) newline.1 (fun last => ?_) behind
      -- The closing brace is the last character of the reference.
      rw [Fragment.chars, List.getLast?_append] at last
      cases last
    · rename_i clear
      exact .reference named clear behind
  | case3 c rest absent ih =>
    rw [fragments_cons absent, fragmentPassages]
    simp only [List.mem_cons, not_or] at newline
    refine .kept (Ne.symm newline.1) ?_ ?_ (ih newline.2 ?_ (line ++ [c]))
    · intro isReturn
      exact head?_append_ne newline.2 fun last => notReturn (by rw [last, isReturn]; rfl)
    · intro _ name left named
      exact reference?_append_ne ends named absent
    · intro last
      refine notReturn ?_
      rw [List.getLast?_cons, last]
      rfl

/-- Of what stands on the line already, only the number signs count. -/
theorem of_same_signs {line text other : List Char} (reads : Reads line text passages)
    (same : '#' ∈ other ↔ '#' ∈ line) : Reads other text passages := by
  induction reads generalizing other with
  | done => exact .done
  | lineBreak further => exact .lineBreak further
  | returnBreak further => exact .returnBreak further
  | reference named clear further ih =>
    exact .reference named (fun sign => clear (same.mp sign)) (ih (by simp [same]))
  | kept notBreak notReturn notReference further ih =>
    exact .kept notBreak notReturn (fun clear => notReference (fun sign => clear (same.mpr sign)))
      (ih (by simp [same]))

/-- **What follows is read afterwards**, if no reference can reach into it. -/
theorem append {line text tail : List Char} {passages more : List Passage}
    (reads : Reads line text passages) (newline : '\n' ∉ text)
    (brace : '\x7d' ∉ tail) (feed : tail.head? ≠ some '\n')
    (further : Reads (line ++ text) tail more) : Reads line (text ++ tail) (passages ++ more) := by
  induction reads with
  | done => simpa using further
  | lineBreak => simp at newline
  | returnBreak => simp at newline
  | reference named clear _ ih =>
    simp only [List.mem_append, not_or] at newline
    rw [List.append_assoc]
    exact .reference named clear (ih newline.2 (by rwa [List.append_assoc]))
  | @kept line rest c passages notBreak notReturn notReference _ ih =>
    simp only [List.mem_cons, not_or] at newline
    refine .kept notBreak (fun _ => head?_append_ne newline.2 fun _ => feed)
      (fun clear name left named same => ?_) (ih newline.2 (by rwa [List.append_assoc]))
    cases found : reference? (c :: rest) with
    | none =>
      obtain ⟨beyond, _, split⟩ := reaches_beyond named found same
      exact brace (by rw [split]; simp)
    | some result =>
      obtain ⟨written, nonempty, closed⟩ := reference?_eq_some_iff.mp found
      refine notReference clear _ _ ⟨nonempty, closed, fun feed => ?_⟩ written
      have among : '\n' ∈ c :: rest := by
        rw [written]
        simp [Fragment.chars, feed]
      simp [newline] at among

end Reads

/-! ## The lines of a text -/

/-- **A text cut into lines.** -/
inductive Cut : List Char → List (List Char × Bool) → Prop where
  | done : Cut [] []
  | unended {cs : List Char} (nonempty : cs ≠ []) (newline : '\n' ∉ cs) : Cut cs [(cs, false)]
  | ended {cs rest : List Char} {lines : List (List Char × Bool)} (newline : '\n' ∉ cs)
      (further : Cut rest lines) : Cut (cs ++ '\n' :: rest) ((cs, true) :: lines)

theorem cut_linesOf (text : List Char) : Cut text (linesOf text) := by
  induction text using linesOf.induct with
  | case1 => exact .done
  | case2 rest ih => exact @Cut.ended [] rest _ (by simp) ih
  | case3 c rest other line ended lines found ih =>
    have notBreak : '\n' ≠ c := fun same => other same.symm
    rw [linesOf, found]
    · rw [found] at ih
      cases ih with
      | unended nonempty newline => exact .unended (by simp) (by simp [notBreak, newline])
      | ended newline further =>
        exact @Cut.ended (c :: line) _ _ (by simp [notBreak, newline]) further
    · exact other
  | case4 c rest other found ih =>
    have notBreak : '\n' ≠ c := fun same => other same.symm
    rw [linesOf, found]
    · rw [found] at ih
      cases ih
      exact .unended (by simp) (by simp [notBreak])
    · exact other

/-- The pieces of a line, with the line break behind it. -/
def linePassages (line : List Char × Bool) : List Passage :=
  fragmentPassages [] (fragments (lineText line)) ++
    if line.2 then [.lineBreak (line.1.getLast? = some '\r')] else []

/-- **How a text is read line by line.** -/
theorem Cut.reads {text : List Char} {lines : List (List Char × Bool)} (cut : Cut text lines) :
    Reads [] text (lines.flatMap linePassages) := by
  induction cut with
  | done => exact .done
  | @unended cs nonempty newline =>
    have line := Reads.of_line newline .done (by simp) (fun _ => .done) []
    simpa [linePassages, lineText] using line
  | @ended cs rest lines newline further ih =>
    by_cases last : cs.getLast? = some '\r'
    · obtain ⟨front, rfl⟩ := List.getLast?_eq_some_iff.mp last
      simp only [List.mem_append, not_or] at newline
      have line := Reads.of_line newline.1 .returnBreak (by simp) (fun _ => .returnBreak ih) []
      simpa [linePassages, lineText, dropReturn] using line
    · have line := Reads.of_line newline .lineBreak (fun at_end => absurd at_end last)
        (fun _ => .lineBreak ih) []
      simpa [linePassages, lineText, dropReturn, last] using line

theorem linesOf_line {cs : List Char} (newline : '\n' ∉ cs) (rest : List Char) :
    linesOf (cs ++ '\n' :: rest) = (cs, true) :: linesOf rest := by
  induction cs with
  | nil => rfl
  | cons c cs ih =>
    simp only [List.mem_cons, not_or] at newline
    rw [List.cons_append, linesOf, ih newline.2]
    exact fun same => newline.1 same.symm

theorem linesOf_unended {cs : List Char} (nonempty : cs ≠ []) (newline : '\n' ∉ cs) :
    linesOf cs = [(cs, false)] := by
  induction cs with
  | nil => exact absurd rfl nonempty
  | cons c cs ih =>
    simp only [List.mem_cons, not_or] at newline
    rw [linesOf]
    · cases cs with
      | nil => rfl
      | cons d cs => rw [ih (by simp) newline.2]
    · exact fun same => newline.1 same.symm

/-- A text at whose end a line can begin. -/
def StartsLine (above : List Char) : Prop := above = [] ∨ above.getLast? = some '\n'

theorem Cut.linesOf_append {above : List Char} {lines : List (List Char × Bool)}
    (cut : Cut above lines) (starts : StartsLine above) (rest : List Char) :
    linesOf (above ++ rest) = lines ++ linesOf rest := by
  induction cut with
  | done => rfl
  | @unended cs nonempty newline =>
    have last := starts.resolve_left nonempty
    exact absurd (List.mem_of_getLast? last) newline
  | @ended cs after lines newline further ih =>
    rw [List.append_assoc, List.cons_append, linesOf_line newline, ih, List.cons_append]
    cases after with
    | nil => exact .inl rfl
    | cons d after =>
      have last := starts.resolve_left (by simp)
      rw [List.getLast?_append, List.getLast?_cons_cons] at last
      simpa [StartsLine] using last

end Gatehouse.References
