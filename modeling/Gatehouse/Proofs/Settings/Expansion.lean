import Gatehouse.Proofs.FirstProblem
import Gatehouse.Proofs.Settings.Reading

/-!
# What expansion does to a text

Expansion goes line by line, and within a line fragment by fragment.  What comes out of it is a
matter of the whole text as it is read: the value of a name stands in the place of every reference
that counts, a line feed in the place of every line break, and everything else is as it was.  What
is put in is not read.

The first reference that counts and has no value stops the expansion, and its name is the error.

### What is load-bearing

The bit that expansion hands on from fragment to fragment is the question whether a number sign
stands on the line so far (`expandFragments_firstProblem`).  A reference that counts can have a
number sign in its name, and then it is the last one of its line that counts.
-/

namespace Gatehouse.References

/-! ## What becomes of the pieces -/

namespace Passage

/-- What becomes of a piece: a reference gives the value of its name, as it is. -/
def expanded (lookup : Lookup) : Passage → List Char
  | kept c => [c]
  | reference name => (lookup (String.ofList name)).elim [] String.toList
  | lineBreak _ => ['\n']

/-- A name without a value. -/
def unset? (lookup : Lookup) : Passage → Option String
  | reference name =>
    if (lookup (String.ofList name)).isNone then some (String.ofList name) else none
  | _ => none

end Passage

theorem filterMap_unset?_kept (lookup : Lookup) (cs : List Char) :
    (cs.map Passage.kept).filterMap (·.unset? lookup) = [] := by
  induction cs with
  | nil => rfl
  | cons c cs ih => exact ih

theorem flatMap_expanded_kept (lookup : Lookup) (cs : List Char) :
    (cs.map Passage.kept).flatMap (·.expanded lookup) = cs := by
  induction cs with
  | nil => rfl
  | cons c cs ih => rw [List.map_cons, List.flatMap_cons, ih]; rfl

/-! ## What becomes of a text -/

/-- What becomes of one fragment.  With `commented` a number sign has been passed. -/
def expandFragment (lookup : Lookup) : (commented : Bool) → Fragment → Except String (List Char)
  | false, .reference name =>
    match lookup (String.ofList name) with
    | some value => .ok value.toList
    | none => .error (String.ofList name)
  | _, fragment => .ok fragment.chars

theorem expandFragments_cons (lookup : Lookup) (commented : Bool) (fragment : Fragment)
    (rest : List Fragment) :
    expandFragments lookup commented (fragment :: rest) = do
      let chars ← expandFragment lookup commented fragment
      let more ← expandFragments lookup (commented || fragment.chars.contains '#') rest
      return chars ++ more := by
  cases fragment with
  | char c => cases commented <;> rfl
  | reference name =>
    cases commented with
    | true => rfl
    | false =>
      rw [expandFragments, expandFragment]
      cases lookup (String.ofList name) <;> rfl

/-- **An unset name is the problem of its reference**, unless a number sign stands before it. -/
theorem expandFragment_firstProblem (lookup : Lookup) (line : List Char) (fragment : Fragment) :
    FirstProblem ((fragment.passages line).filterMap (·.unset? lookup))
      (· = (fragment.passages line).flatMap (·.expanded lookup))
      (expandFragment lookup (decide ('#' ∈ line)) fragment) := by
  cases fragment with
  | char c => cases decide ('#' ∈ line) <;> exact ⟨rfl, rfl⟩
  | reference name =>
    by_cases sign : '#' ∈ line
    · rw [Fragment.passages, if_pos sign, filterMap_unset?_kept, flatMap_expanded_kept,
        decide_eq_true sign]
      exact ⟨rfl, rfl⟩
    · rw [Fragment.passages, if_neg sign, decide_eq_false sign]
      cases value : lookup (String.ofList name) with
      | none => simp [expandFragment, value, FirstProblem, Passage.unset?]
      | some text => simp [expandFragment, value, FirstProblem, Passage.unset?, Passage.expanded]

/-- **The first unset name of a line decides.** -/
theorem expandFragments_firstProblem (lookup : Lookup) (pieces : List Fragment)
    (line : List Char) :
    FirstProblem ((fragmentPassages line pieces).filterMap (·.unset? lookup))
      (· = (fragmentPassages line pieces).flatMap (·.expanded lookup))
      (expandFragments lookup (decide ('#' ∈ line)) pieces) := by
  induction pieces generalizing line with
  | nil => exact ⟨rfl, rfl⟩
  | cons fragment rest ih =>
    have behind := ih (line ++ fragment.chars)
    have passed : (decide ('#' ∈ line) || fragment.chars.contains '#') =
        decide ('#' ∈ line ++ fragment.chars) := by
      simp
    rw [fragmentPassages, List.filterMap_append, List.flatMap_append, expandFragments_cons, passed]
    refine (expandFragment_firstProblem lookup line fragment).bind ?_
    rintro chars rfl
    exact behind.bind_pure fun more same => by rw [same]

theorem expandLine_firstProblem (lookup : Lookup) (line : List Char) :
    FirstProblem ((fragmentPassages [] (fragments line)).filterMap (·.unset? lookup))
      (· = (fragmentPassages [] (fragments line)).flatMap (·.expanded lookup))
      (expandLine lookup line) :=
  expandFragments_firstProblem lookup (fragments line) []

/-- **The first unset name of a text decides.** -/
theorem expandLines_firstProblem (lookup : Lookup) (lines : List (List Char × Bool)) :
    FirstProblem ((lines.flatMap linePassages).filterMap (·.unset? lookup))
      (· = (lines.flatMap linePassages).flatMap (·.expanded lookup))
      (expandLines lookup lines) := by
  induction lines with
  | nil => exact ⟨rfl, rfl⟩
  | cons line lines ih =>
    have here := expandLine_firstProblem lookup (lineText line)
    rw [List.flatMap_cons, List.filterMap_append, List.flatMap_append, expandLines]
    have unset : (linePassages line).filterMap (·.unset? lookup) =
        (fragmentPassages [] (fragments (lineText line))).filterMap (·.unset? lookup) := by
      rw [linePassages, List.filterMap_append]
      split <;> simp [Passage.unset?]
    have expanded : (linePassages line).flatMap (·.expanded lookup) =
        (fragmentPassages [] (fragments (lineText line))).flatMap (·.expanded lookup) ++
          lineEnd line := by
      rw [linePassages, List.flatMap_append, lineEnd]
      split <;> simp [Passage.expanded]
    rw [unset, expanded]
    refine here.bind ?_
    rintro chars rfl
    exact ih.bind_pure fun more same => by rw [same]

/-- **Expansion replaces the references that count, and nothing else.**  There is exactly one way
to read a text, and no character is lost in it.  If every reference that counts has a value, the
result has the value in the place of the reference, it has a line feed in the place of a line
break, and it has every other character as it is.  Otherwise the first name without a value, in
the order of the text, is the error. -/
theorem references_are_replaced (lookup : Lookup) (text : String) :
    ∃ passages : List Passage,
      (∀ others, Reads [] text.toList others ↔ others = passages) ∧
      text.toList = passages.flatMap (·.written) ∧
      FirstProblem (passages.filterMap (·.unset? lookup))
        (fun result => result.toList = passages.flatMap (·.expanded lookup))
        (expand lookup text) := by
  have reads := (cut_linesOf text.toList).reads
  refine ⟨(linesOf text.toList).flatMap linePassages, fun others => ?_, reads.written.symm, ?_⟩
  · constructor
    · exact reads.unique
    · rintro rfl
      exact reads
  · have expanded := expandLines_firstProblem lookup (linesOf text.toList)
    rw [expand]
    cases result : expandLines lookup (linesOf text.toList) with
    | error name =>
      rw [result] at expanded
      exact expanded
    | ok chars =>
      rw [result] at expanded
      obtain ⟨none, rfl⟩ := expanded
      exact ⟨none, String.toList_ofList⟩

/-! ## A line by itself -/

theorem expandLines_append (lookup : Lookup) (lines more : List (List Char × Bool)) :
    expandLines lookup (lines ++ more) = do
      let before ← expandLines lookup lines
      let behind ← expandLines lookup more
      return before ++ behind := by
  induction lines with
  | nil =>
    have empty : expandLines lookup [] = pure [] := rfl
    simp [empty]
  | cons line lines ih =>
    simp only [List.cons_append, expandLines, ih, bind_assoc, pure_bind, List.append_assoc]

/-- A line is expanded by itself, whatever follows it. -/
theorem expandLines_line (lookup : Lookup) {line below : List Char} (nonempty : line ≠ [])
    (newline : '\n' ∉ line) (notReturn : line.getLast? ≠ some '\r') (ends : EndsLine below) :
    expandLines lookup (linesOf (line ++ below)) = do
      let chars ← expandLine lookup line
      let behind ← expandLines lookup (linesOf below)
      return chars ++ behind := by
  have empty : expandLine lookup [] = pure [] := by
    rw [expandLine, fragments, expandFragments]
    rfl
  cases ends with
  | done =>
    rw [List.append_nil, linesOf_unended nonempty newline]
    simp only [expandLines, lineText, lineEnd, linesOf, List.append_nil, Bool.false_eq_true,
      if_false]
  | @lineBreak rest =>
    have feed : linesOf ('\n' :: rest) = ([], true) :: linesOf rest := rfl
    have whole : lineText (line, true) = line := if_neg notReturn
    have nothing : lineText ([], true) = [] := rfl
    rw [linesOf_line newline, feed]
    simp [expandLines, lineEnd, whole, nothing, empty]
  | @returnBreak rest =>
    have feed : linesOf ('\r' :: '\n' :: rest) = (['\r'], true) :: linesOf rest := rfl
    have returned : linesOf (line ++ '\r' :: '\n' :: rest) =
        (line ++ ['\r'], true) :: linesOf rest := by
      rw [← linesOf_line (by simp [newline]), List.append_assoc]
      rfl
    have whole : lineText (line ++ ['\r'], true) = line := by simp [lineText, dropReturn]
    have nothing : lineText (['\r'], true) = [] := rfl
    rw [returned, feed]
    simp [expandLines, lineEnd, whole, nothing, empty]

end Gatehouse.References
