import Gatehouse.Proofs.Settings.Expansion
import Gatehouse.Toml.Document

/-!
# Number signs within texts

Behind a number sign references are left alone, because a number sign begins a comment.  Expansion
comes before reading, though, and it takes every number sign for one that does.  Within quotes a
number sign is a character like any other: for the reader of documents a line that gives a text to
a key has no comment at all (`Toml.parse?_textLine`).

So a number sign within a text protects the references behind it just as well, and a document can
be read that still has them (`quoted_number_sign_protects`).  The references before the first
number sign of the text are replaced, and nothing else on the line counts
(`expand_up_to_number_sign`).

### What is load-bearing

No reference begins in the key or reaches over the closing quote: a bare key has no dollar sign,
and behind the quote no brace is left on the line.  So the text is read on its line as it would be
by itself (`reads_textLine`).
-/

namespace Gatehouse

namespace Toml

/-! ## A line with a text -/

/-- A key that needs no quotes. -/
structure IsBareKey (key : String) : Prop where
  nonempty : key.toList ≠ []
  named : ∀ c ∈ key.toList, isNameChar c = true

/-- A text that can stand between quotes as it is. -/
structure IsPlainText (value : String) : Prop where
  plain : ∀ c ∈ value.toList, isPlainChar c = true
  quote_notMem : '"' ∉ value.toList
  backslash_notMem : '\\' ∉ value.toList

/-- The line that gives a text to a key. -/
def textLine (key value : String) : String := key ++ " = \"" ++ value ++ "\""

theorem toList_textLine (key value : String) :
    (textLine key value).toList =
      key.toList ++ ' ' :: '=' :: ' ' :: '"' :: (value.toList ++ ['"']) := by
  simp [textLine]

/-- The line ends with the closing quote. -/
theorem getLast?_textLine (key value : String) :
    (textLine key value).toList.getLast? = some '"' := by
  rw [textLine, String.toList_append, List.getLast?_append]
  rfl

theorem ne_of_isNameChar {c d : Char} (named : isNameChar c = true)
    (other : isNameChar d = false) : c ≠ d := by
  rintro rfl
  rw [other] at named
  cases named

theorem IsBareKey.notMem {key : String} (bare : IsBareKey key) {d : Char}
    (other : isNameChar d = false) : d ∉ key.toList :=
  fun mem => ne_of_isNameChar (bare.named d mem) other rfl

theorem IsPlainText.newline_notMem {value : String} (plain : IsPlainText value) :
    '\n' ∉ value.toList :=
  fun mem => absurd (plain.plain '\n' mem) (by decide)

theorem newline_notMem_textLine {key value : String} (bare : IsBareKey key)
    (plain : IsPlainText value) : '\n' ∉ (textLine key value).toList := by
  have feed : '\n' ∉ key.toList := bare.notMem (by decide)
  simp [toList_textLine, feed, plain.newline_notMem]

theorem basicLine_plain {value rest : List Char} (plain : ∀ c ∈ value, isPlainChar c = true)
    (quote : '"' ∉ value) (backslash : '\\' ∉ value) :
    basicLine (value ++ '"' :: rest) = some (value, rest) := by
  induction value with
  | nil => rfl
  | cons c value ih =>
    simp only [List.mem_cons, not_or] at quote backslash
    have behind := ih (fun d mem => plain d (List.mem_cons_of_mem c mem)) quote.2 backslash.2
    rw [List.cons_append, basicLine, if_pos (plain c List.mem_cons_self), behind]
    · rfl
    · exact Ne.symm quote.1
    all_goals simp [Ne.symm backslash.1]

theorem value?_plain {value : String} (plain : IsPlainText value) (fuel : Nat) :
    value? (fuel + 1) ('"' :: (value.toList ++ ['"'])) = some (.text value, []) := by
  have read : basicLine (value.toList ++ ['"']) = some (value.toList, []) :=
    basicLine_plain plain.plain plain.quote_notMem plain.backslash_notMem
  have quoted : text? ('"' :: (value.toList ++ ['"'])) = some (value.toList, []) := by
    rw [text?, lineText?, read]
    -- Three quotes do not stand at the front: behind the first one no other comes before the end.
    · intro rest same
      cases split : value.toList with
      | nil =>
        rw [split] at same
        cases same
      | cons c cs =>
        rw [split, List.cons_append] at same
        obtain ⟨rfl, -⟩ := List.cons.inj (List.cons.inj same).2
        exact plain.quote_notMem (by simp [split])
    · simp
  simp [value?, quoted]

/-- What begins with a bare key begins with no other character. -/
theorem IsBareKey.append_ne {key : String} (bare : IsBareKey key) {d : Char}
    (other : isNameChar d = false) (rest left : List Char) : key.toList ++ rest ≠ d :: left := by
  obtain ⟨c, cs, split⟩ := List.exists_cons_of_ne_nil bare.nonempty
  rw [split]
  intro same
  have first : c = d := (List.cons.inj same).1
  exact ne_of_isNameChar (bare.named c (by simp [split])) other first

theorem key?_bare {key : String} (bare : IsBareKey key) (fuel : Nat) (rest : List Char) :
    key? (fuel + 1) (key.toList ++ ' ' :: '=' :: rest) = some (⟨[], key⟩, '=' :: rest) := by
  have takes : (key.toList ++ ' ' :: '=' :: rest).takeWhile isNameChar = key.toList := by
    rw [List.takeWhile_append_of_pos bare.named]
    simp [isNameChar]
  have drops : (key.toList ++ ' ' :: '=' :: rest).dropWhile isNameChar = ' ' :: '=' :: rest := by
    rw [List.dropWhile_append_of_pos bare.named]
    simp [isNameChar]
  have named : name? (key.toList ++ ' ' :: '=' :: rest) = some (key, ' ' :: '=' :: rest) := by
    rw [name?]
    · rw [takes, drops]
      simp [bare.nonempty]
    · exact bare.append_ne (by decide) _
    · exact bare.append_ne (by decide) _
  rw [key?, named]
  simp [dropSpace, isSpace]

theorem dropBreaks_bare {key : String} (bare : IsBareKey key) (rest : List Char) :
    dropBreaks false (key.toList ++ rest) = some (key.toList ++ rest) := by
  obtain ⟨c, cs, split⟩ := List.exists_cons_of_ne_nil bare.nonempty
  have differs (d : Char) (other : isNameChar d = false) : c ≠ d :=
    ne_of_isNameChar (bare.named c (by simp [split])) other
  have space : isSpace c = false := by
    simp [isSpace, differs ' ' (by decide), differs '\t' (by decide)]
  rw [split, List.cons_append, dropBreaks]
  · simp [differs '#' (by decide), space]
  · exact fun same => differs '\n' (by decide) same
  · exact fun _ same => absurd same (differs '\r' (by decide))

/-- **A text in quotes is the value of its key**, whatever number signs it has: none of them
begins a comment. -/
theorem parse?_textLine {key value : String} (bare : IsBareKey key) (plain : IsPlainText value) :
    parse? (textLine key value) = some (.table [(key, .text value)]) := by
  have starts : ∀ d, isNameChar d = false → ∀ cs, (textLine key value).toList ≠ d :: cs := by
    rw [toList_textLine]
    exact fun d other => bare.append_ne other _
  have assigned (fuel : Nat) :
      assignment? (fuel + 2) (textLine key value).toList = some (⟨[], key⟩, .text value, []) := by
    rw [toList_textLine, assignment?, key?_bare bare]
    simp [dropSpace, isSpace, value?_plain plain]
  have read (fuel : Nat) :
      Statement.read? (fuel + 2) (textLine key value).toList =
        some (.assign ⟨[], key⟩ (.text value), []) := by
    rw [Statement.read?, assigned]
    · rfl
    · exact fun cs => starts '[' (by decide) _
    · exact starts '[' (by decide)
  have all : Statement.all? (textLine key value) = some [.assign ⟨[], key⟩ (.text value)] := by
    have skipped := dropBreaks_bare bare (' ' :: '=' :: ' ' :: '"' :: (value.toList ++ ['"']))
    rw [← toList_textLine] at skipped
    have nonempty : (textLine key value).toList ≠ [] := by
      rw [toList_textLine]
      simp
    rw [Statement.all?]
    split
    · rename_i marked
      exact absurd marked (starts '\uFEFF' (by decide) _)
    · obtain ⟨n, length⟩ : ∃ n, (textLine key value).toList.length = n + 1 :=
        Nat.exists_eq_add_one.mpr (List.length_pos_iff.mpr nonempty)
      rw [length, Statement.readAll?, skipped]
      simp [read, Statement.readAll?, dropBreaks]
  rw [parse?, all]
  rfl

end Toml

namespace References

open Toml (IsBareKey IsPlainText textLine toList_textLine getLast?_textLine
  newline_notMem_textLine)

/-! ## What expansion does to the line -/

/-- The pieces of a line that gives a text to a key. -/
theorem reads_textLine {key value : String} (bare : IsBareKey key) (plain : IsPlainText value)
    {passages : List Passage} (reads : Reads [] value.toList passages) :
    Reads [] (textLine key value).toList
      ((key.toList ++ [' ', '=', ' ', '"']).map .kept ++ (passages ++ [.kept '"'])) := by
  have sign : '#' ∉ key.toList := bare.notMem (by decide)
  have dollar : '$' ∉ key.toList := bare.notMem (by decide)
  have feed : '\n' ∉ key.toList := bare.notMem (by decide)
  have last : ∀ line, Reads line ['"'] [.kept '"'] := by
    intro line
    refine .kept (by decide) (by simp) (fun _ name left _ same => ?_) .done
    cases same
  have quoted : Reads (key.toList ++ [' ', '=', ' ', '"']) (value.toList ++ ['"'])
      (passages ++ [.kept '"']) := by
    refine (reads.of_same_signs ?_).append plain.newline_notMem (by simp) (by simp) (last _)
    simp [sign]
  have line : Reads [] ((key.toList ++ [' ', '=', ' ', '"']) ++ (value.toList ++ ['"'])) _ :=
    .append_kept (.inr (by simp [dollar])) (by simp [feed]) (by simp) quoted
  simpa [toList_textLine] using line

/-- What becomes of such a line. -/
theorem expandLine_textLine {lookup : Lookup} {key value : String} (bare : IsBareKey key)
    (plain : IsPlainText value) {passages : List Passage} (reads : Reads [] value.toList passages)
    (set : ∀ name, .reference name ∈ passages → (lookup (String.ofList name)).isSome) :
    expandLine lookup (textLine key value).toList =
      .ok (textLine key (String.ofList (passages.flatMap (·.expanded lookup)))).toList := by
  have newline := newline_notMem_textLine bare plain
  have pieces : fragmentPassages [] (fragments (textLine key value).toList) =
      (key.toList ++ [' ', '=', ' ', '"']).map .kept ++ (passages ++ [.kept '"']) := by
    have line := Reads.of_line newline .done (by simp) (fun _ => .done) []
    rw [List.append_nil, List.append_nil] at line
    exact (reads_textLine bare plain reads).unique line
  have none : passages.filterMap (·.unset? lookup) = [] := by
    rw [List.filterMap_eq_nil_iff]
    intro passage mem
    cases passage with
    | reference name => simp [Passage.unset?, Option.isSome_iff_ne_none.mp (set name mem)]
    | _ => rfl
  have expanded := expandLine_firstProblem lookup (textLine key value).toList
  rw [pieces, List.filterMap_append, List.filterMap_append, filterMap_unset?_kept, none,
    List.flatMap_append, List.flatMap_append, flatMap_expanded_kept] at expanded
  cases result : expandLine lookup (textLine key value).toList with
  | error name =>
    rw [result] at expanded
    cases expanded
  | ok chars =>
    rw [result] at expanded
    rw [expanded.2, toList_textLine]
    simp [Passage.expanded]

/-- A number sign within a text protects the reference behind it, which has a value, although the
line has no comment. -/
theorem quoted_number_sign_protects :
    let lookup : Lookup := fun name => if name = "REGION" then some "eu" else none
    let value := "jobs#$\x7bREGION\x7d"
    IsBareKey "default_queue" ∧ IsPlainText value ∧
      fragments value.toList = "jobs#".toList.map .char ++ [.reference "REGION".toList] ∧
      lookup "REGION" = some "eu" ∧
      Toml.parse? (textLine "default_queue" value) =
        some (.table [("default_queue", .text value)]) ∧
      expand lookup (textLine "default_queue" value) = .ok (textLine "default_queue" value) ∧
      expand lookup (textLine "default_queue" value) ≠
        .ok (textLine "default_queue" "jobs#eu") := by
  intro lookup value
  have bare : IsBareKey "default_queue" := ⟨by decide, List.all_eq_true.mp (by decide +kernel)⟩
  have plain : IsPlainText value :=
    ⟨List.all_eq_true.mp (by decide +kernel), by decide +kernel, by decide +kernel⟩
  exact ⟨bare, plain, by decide +kernel, by decide, Toml.parse?_textLine bare plain,
    by decide +kernel, by decide +kernel⟩

/-- **A number sign within a text protects the references behind it**, although it begins no
comment: the line has none, it just gives the text to the key.  The references that count are
those before the first number sign of the text.  If they have values, they are replaced by these,
and everything else on the line is left as it is.  What stands above the line and below it is
expanded for itself. -/
theorem expand_up_to_number_sign (lookup : Lookup) {key value above below : String}
    {passages : List Passage} (bare : IsBareKey key) (plain : IsPlainText value)
    (reads : Reads [] value.toList passages)
    (set : ∀ name, .reference name ∈ passages → (lookup (String.ofList name)).isSome)
    (starts : StartsLine above.toList) (ends : EndsLine below.toList) :
    Toml.parse? (textLine key value) = some (.table [(key, .text value)]) ∧
      expand lookup (above ++ textLine key value ++ below) = do
        let before ← expand lookup above
        let behind ← expand lookup below
        let after := String.ofList (passages.flatMap (·.expanded lookup))
        return before ++ textLine key after ++ behind := by
  refine ⟨Toml.parse?_textLine bare plain, ?_⟩
  have line := expandLines_line lookup (by simp [toList_textLine])
    (newline_notMem_textLine bare plain) (by simp [getLast?_textLine]) ends
  rw [expandLine_textLine bare plain reads set] at line
  rw [expand, String.toList_append, String.toList_append, List.append_assoc,
    (cut_linesOf above.toList).linesOf_append starts, expandLines_append, line, expand, expand]
  cases expandLines lookup (linesOf above.toList) with
  | error name => rfl
  | ok before =>
    cases expandLines lookup (linesOf below.toList) with
    | error name => rfl
    | ok behind =>
      change Except.ok _ = Except.ok _
      simp [String.append_assoc]

/-- The reference before the number sign is replaced.  The one behind it has no value, and this is
no error. -/
theorem reference_before_number_sign_is_replaced :
    let lookup : Lookup := fun name => if name = "REGION" then some "eu" else none
    expand lookup ("[dispatch]\n" ++
        textLine "default_queue" "$\x7bREGION\x7d.jobs#$\x7bZONE\x7d" ++ "\n") =
      .ok ("[dispatch]\n" ++ textLine "default_queue" "eu.jobs#$\x7bZONE\x7d" ++ "\n") := by
  intro lookup
  let value := "$\x7bREGION\x7d.jobs#$\x7bZONE\x7d"
  let passages : List Passage :=
    .reference "REGION".toList :: ".jobs#$\x7bZONE\x7d".toList.map .kept
  have reads : Reads [] value.toList passages := by
    have lines := (cut_linesOf value.toList).reads
    have same : (linesOf value.toList).flatMap linePassages = passages := by decide +kernel
    rwa [same] at lines
  have set : ∀ name, .reference name ∈ passages → (lookup (String.ofList name)).isSome := by
    intro name mem
    have same : name = "REGION".toList := by simpa [passages] using mem
    rw [same]
    decide
  have bare : IsBareKey "default_queue" := ⟨by decide, List.all_eq_true.mp (by decide +kernel)⟩
  have plain : IsPlainText value :=
    ⟨List.all_eq_true.mp (by decide +kernel), by decide +kernel, by decide +kernel⟩
  have starts : StartsLine "[dispatch]\n".toList := .inr (by decide +kernel)
  have ends : EndsLine "\n".toList := .lineBreak
  obtain ⟨-, expanded⟩ := expand_up_to_number_sign lookup bare plain reads set starts ends
  have above : expand lookup "[dispatch]\n" = .ok "[dispatch]\n" := by decide +kernel
  have below : expand lookup "\n" = .ok "\n" := by decide +kernel
  have text : String.ofList (passages.flatMap (·.expanded lookup)) =
      "eu.jobs#$\x7bZONE\x7d" := by
    decide +kernel
  rw [above, below, text] at expanded
  exact expanded

end References

end Gatehouse
