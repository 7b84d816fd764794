import Gatehouse.Policy.Document
import Gatehouse.Proofs.FirstProblem
import Gatehouse.Proofs.Pattern.Grammar
import Gatehouse.Proofs.Pattern.Spelling

/-!
# All of a policy or nothing

A policy is made of written clauses in three passes.  All patterns of all clauses are read, then
the name is looked at, and at last every clause has to have an action and an object.  What a pass
is about, the earlier passes have left alone: so the faults of written clauses can be listed
without making anything (`Policy.faults`), those of the patterns in the order of writing, then the
one of the name, then those of the clauses.

A policy is made exactly if this list is empty, and it has the written clauses and nothing else.
Otherwise the first fault of the list is the error.  So it is with a policy that stands in a file
(`Policy.StandsIn`), where two things more can go wrong before (`Policy.fileFaults`): the file
cannot be read, or its text is no policy document.

### What is load-bearing

Faults of patterns come from reading, where each pattern is refused for a cause of its own.  That
a pattern has a fault exactly if it does not follow the grammar is known for single patterns
(`ActionPattern.exists_parse_iff`, `ObjectPattern.exists_parse_iff`), and so are their spellings,
which is all that is needed to get from the clauses that have been read back to those that were
written.
-/

namespace Gatehouse

/-! ## Written patterns -/

/-- The error of a refused action pattern names the pattern. -/
theorem ActionPattern.exists_fault_of_parse {text : String} {e : PatternError}
    (h : parse text = .error e) : ∃ fault, e = .action text fault := by
  unfold parse at h
  split at h
  · cases h
    exact ⟨_, rfl⟩
  · split at h
    · cases h
      exact ⟨_, rfl⟩
    · cases h

/-- The error of a refused object pattern names the pattern. -/
theorem ObjectPattern.exists_fault_of_parse {text : String} {e : PatternError}
    (h : parse text = .error e) : ∃ fault, e = .object text fault := by
  unfold parse at h
  split at h
  · cases h
    exact ⟨_, rfl⟩
  · split at h
    · cases h
      exact ⟨_, rfl⟩
    · cases h

/-- The error of a computation, if there is one. -/
def refusal? {ε α : Type} : Except ε α → Option ε
  | .error e => some e
  | .ok _ => none

theorem refusal?_eq_none_iff {ε α : Type} {r : Except ε α} :
    refusal? r = none ↔ ∃ x, r = .ok x := by
  cases r <;> simp [refusal?]

theorem refusal?_eq_some_iff {ε α : Type} {r : Except ε α} {e : ε} :
    refusal? r = some e ↔ r = .error e := by
  cases r <;> simp [refusal?]

/-- A single computation has its error as its problem. -/
theorem firstProblem_refusal? {ε α : Type} {r : Except ε α} {Wanted : α → Prop}
    (wanted : ∀ x, r = .ok x → Wanted x) : FirstProblem (refusal? r).toList Wanted r := by
  cases r with
  | error e => rfl
  | ok x => exact ⟨rfl, wanted x rfl⟩

/-- A pattern as it is written in a clause. -/
inductive RawPattern where
  | action (text : String)
  | object (text : String)
  deriving DecidableEq, Repr

namespace RawPattern

/-- The pattern follows the grammar of its kind. -/
def FollowsGrammar : RawPattern → Prop
  | action text => ActionParts (Text.parts '.' text)
  | object text => ObjectParts (Text.parts '/' text)

/-- Why the pattern cannot be read. -/
def fault? : RawPattern → Option PatternError
  | action text => refusal? (ActionPattern.parse text)
  | object text => refusal? (ObjectPattern.parse text)

/-- The error is about this pattern. -/
def IsNamedBy : RawPattern → PatternError → Prop
  | action text, e => ∃ fault, e = .action text fault
  | object text, e => ∃ fault, e = .object text fault

/-- **A pattern has a fault** exactly if it does not follow the grammar. -/
theorem fault?_eq_none_iff {p : RawPattern} : p.fault? = none ↔ p.FollowsGrammar := by
  cases p with
  | action text => exact refusal?_eq_none_iff.trans ActionPattern.exists_parse_iff
  | object text => exact refusal?_eq_none_iff.trans ObjectPattern.exists_parse_iff

/-- **A fault names its pattern.** -/
theorem isNamedBy_of_fault? {p : RawPattern} {e : PatternError} (h : p.fault? = some e) :
    p.IsNamedBy e := by
  cases p with
  | action text => exact ActionPattern.exists_fault_of_parse (refusal?_eq_some_iff.mp h)
  | object text => exact ObjectPattern.exists_fault_of_parse (refusal?_eq_some_iff.mp h)

end RawPattern

/-- The patterns of a written clause, its actions before its objects. -/
def RawClause.patterns (raw : RawClause) : List RawPattern :=
  raw.actions.map .action ++ raw.objects.map .object

/-- What a written clause lacks, its actions first. -/
def RawClause.lacks (raw : RawClause) : List MissingPatterns :=
  (if raw.actions = [] then [.actions] else []) ++ if raw.objects = [] then [.objects] else []

theorem RawClause.lacks_eq_nil_iff {raw : RawClause} :
    raw.lacks = [] ↔ raw.actions ≠ [] ∧ raw.objects ≠ [] := by
  unfold lacks
  rw [List.append_eq_nil_iff]
  simp

/-! ## Reading the clauses -/

/-- **Patterns of one kind are read from their spellings.** -/
theorem firstProblem_mapM_parse {α : Type} {parse : String → Except PatternError α}
    {spell : α → String} (lossless : ∀ text x, parse text = .ok x → spell x = text)
    (texts : List String) :
    FirstProblem (texts.filterMap fun text => refusal? (parse text))
      (fun xs => xs.map spell = texts) (texts.mapM parse) := by
  rw [List.filterMap_eq_flatMap_toList]
  refine (FirstProblem.mapM (fun text => firstProblem_refusal? (lossless text)) texts).imp
    fun xs spelled => ?_
  rw [← List.forall₂_eq_eq_eq, List.forall₂_map_left_iff]
  exact spelled.flip

/-- **A clause is read if its patterns are.** -/
theorem Clause.firstProblem_read (raw : RawClause) :
    FirstProblem (raw.patterns.filterMap (·.fault?)) (fun clause => clause.raw = raw)
      (Clause.read raw) := by
  have patterns : raw.patterns.filterMap (·.fault?) =
      (raw.actions.filterMap fun text => refusal? (ActionPattern.parse text)) ++
        raw.objects.filterMap fun text => refusal? (ObjectPattern.parse text) := by
    unfold RawClause.patterns
    rw [List.filterMap_append, List.filterMap_map, List.filterMap_map]
    rfl
  rw [patterns]
  refine (firstProblem_mapM_parse (fun _ _ => ActionPattern.text_of_parse) raw.actions).bind
    fun actions written => ?_
  refine (firstProblem_mapM_parse (fun _ _ => ObjectPattern.text_of_parse) raw.objects).bind_pure
    fun objects written' => ?_
  simp only [Clause.raw, written, written']

/-- **All clauses are read if all patterns are.** -/
theorem firstProblem_mapM_read (raws : List RawClause) :
    FirstProblem ((raws.flatMap (·.patterns)).filterMap (·.fault?))
      (fun clauses => clauses.map (·.raw) = raws) (raws.mapM Clause.read) := by
  rw [List.filterMap_flatMap]
  refine (FirstProblem.mapM Clause.firstProblem_read raws).imp fun clauses written => ?_
  rw [← List.forall₂_eq_eq_eq, List.forall₂_map_left_iff]
  exact written.flip

/-! ## Spellings -/

/-- The clause with its patterns spelled out is read as the clause. -/
theorem Clause.read_raw (clause : Clause) : read clause.raw = .ok clause := by
  have actions := mapM_spellings ActionPattern.parse_text clause.actions
  have objects := mapM_spellings ObjectPattern.parse_text clause.objects
  simp only [read, raw, actions, objects]
  rfl

theorem firstIncomplete?_of_complete {start : Nat} {clauses : List Clause}
    (h : ∀ c ∈ clauses, c.missing? = none) : firstIncomplete? start clauses = none := by
  induction clauses generalizing start with
  | nil => rfl
  | cons clause clauses ih =>
    rw [List.forall_mem_cons] at h
    rw [firstIncomplete?, h.1]
    exact ih h.2

/-! ## Making the policy -/

/-- What a clause lacks can be seen from how it is written. -/
theorem Clause.head?_lacks (clause : Clause) : clause.raw.lacks.head? = clause.missing? := by
  unfold RawClause.lacks missing? Clause.raw
  simp only [List.map_eq_nil_iff]
  split
  · rfl
  · split
    · rfl
    · rfl

/-- What the clauses lack, each with its position counted from `start`. -/
def gaps (start : Nat) (raws : List RawClause) : List (Nat × MissingPatterns) :=
  (raws.zipIdx start).flatMap fun (raw, index) => raw.lacks.map (index, ·)

theorem gaps_cons (start : Nat) (raw : RawClause) (raws : List RawClause) :
    gaps start (raw :: raws) = raw.lacks.map (start, ·) ++ gaps (start + 1) raws := rfl

/-- **The first gap is in the first incomplete clause.** -/
theorem head?_gaps (start : Nat) (clauses : List Clause) :
    (gaps start (clauses.map (·.raw))).head? = firstIncomplete? start clauses := by
  induction clauses generalizing start with
  | nil => rfl
  | cons clause clauses ih =>
    rw [List.map_cons, gaps_cons, List.head?_append, List.head?_map, ih, clause.head?_lacks,
      firstIncomplete?]
    cases clause.missing? with
    | none => rfl
    | some missing => rfl

theorem gaps_eq_nil_iff {start : Nat} {raws : List RawClause} :
    gaps start raws = [] ↔ ∀ raw ∈ raws, raw.actions ≠ [] ∧ raw.objects ≠ [] := by
  induction raws generalizing start with
  | nil => simp [gaps]
  | cons raw raws ih =>
    rw [gaps_cons, List.append_eq_nil_iff, List.map_eq_nil_iff, RawClause.lacks_eq_nil_iff, ih,
      List.forall_mem_cons]

namespace Policy

/-- What is wrong with a name. -/
def nameFaults (name : String) : List PolicyFault :=
  if Text.isBlank name then [.missingName] else []

/-- What is wrong with clauses whose patterns can be read. -/
def clauseFaults (name : String) (raws : List RawClause) : List PolicyFault :=
  (gaps 0 raws).map fun gap => .incompleteClause name gap.1 gap.2

/-- **All faults of a written policy**, in order: those of the patterns, the one of the name, and
those of the clauses. -/
def faults (name : String) (raws : List RawClause) : List PolicyFault :=
  ((raws.flatMap (·.patterns)).filterMap (·.fault?)).map .pattern ++
    (nameFaults name ++ clauseFaults name raws)

/-- **Nothing is wrong**: all patterns follow their grammar, the name has a character that is not
white space, and every clause has an action and an object. -/
structure Sound (name : String) (raws : List RawClause) : Prop where
  patterns : ∀ raw ∈ raws, ∀ p ∈ raw.patterns, p.FollowsGrammar
  named : ∃ c ∈ name.toList, Text.isBlankChar c = false
  complete : ∀ raw ∈ raws, raw.actions ≠ [] ∧ raw.objects ≠ []

theorem nameFaults_eq_nil_iff {name : String} :
    nameFaults name = [] ↔ ∃ c ∈ name.toList, Text.isBlankChar c = false := by
  rw [← Text.isBlank_eq_false_iff]
  unfold nameFaults
  cases Text.isBlank name <;> simp

/-- What is sound is what has no faults. -/
theorem faults_eq_nil_iff {name : String} {raws : List RawClause} :
    faults name raws = [] ↔ Sound name raws := by
  unfold faults clauseFaults
  simp only [List.append_eq_nil_iff, List.map_eq_nil_iff, List.filterMap_eq_nil_iff,
    List.forall_mem_flatMap, RawPattern.fault?_eq_none_iff, nameFaults_eq_nil_iff, gaps_eq_nil_iff]
  exact ⟨fun ⟨patterns, named, complete⟩ => ⟨patterns, named, complete⟩,
    fun sound => ⟨sound.patterns, sound.named, sound.complete⟩⟩

/-- **The name is looked at before the clauses.** -/
theorem firstProblem_make (name : String) (clauses : List Clause) :
    FirstProblem (nameFaults name ++ clauseFaults name (clauses.map (·.raw)))
      (fun policy => policy.name = name ∧ policy.clauses = clauses) (make name clauses) := by
  have first : (clauseFaults name (clauses.map (·.raw))).head? =
      (firstIncomplete? 0 clauses).map fun gap => .incompleteClause name gap.1 gap.2 := by
    rw [clauseFaults, List.head?_map, head?_gaps]
  unfold make nameFaults
  split
  · rfl
  · rw [List.nil_append]
    split
    · rename_i index missing incomplete
      rw [incomplete] at first
      exact first
    · rename_i complete
      rw [complete] at first
      exact ⟨List.head?_eq_none_iff.mp first, rfl, rfl⟩

/-- **The patterns are looked at before the name.** -/
theorem firstProblem_read (name : String) (raws : List RawClause) :
    FirstProblem (faults name raws)
      (fun policy => policy.name = name ∧ policy.clauses.map (·.raw) = raws) (read name raws) := by
  have steps : read name raws =
      (raws.mapM Clause.read).mapError PolicyFault.pattern >>= fun clauses =>
        make name clauses := by
    unfold read
    cases raws.mapM Clause.read with
    | error e => rfl
    | ok clauses => rfl
  rw [steps]
  refine ((firstProblem_mapM_read raws).mapError PolicyFault.pattern).bind fun clauses written => ?_
  subst written
  refine (firstProblem_make name clauses).imp fun policy ⟨named, same⟩ => ⟨named, ?_⟩
  rw [same]

/-- **A policy is made in full or not at all.**  Take any name and any written clauses.

* A policy is made exactly if nothing is wrong with them.
* It has this name, and its clauses are the written ones in the order of writing, each with its
  effect and with its patterns spelled as they are written.
* Otherwise the error is the first of the faults: the first pattern that does not follow its
  grammar, in the order of the clauses and with the actions of a clause before its objects; else
  that there is no name; else the first clause that lacks something, with its position and with
  the actions before the objects.

A pattern has a fault exactly if it does not follow its grammar, and the fault names it. -/
theorem made_in_full_or_first_fault (name : String) (raws : List RawClause) :
    ((∃ policy, read name raws = .ok policy) ↔ Sound name raws) ∧
    FirstProblem (faults name raws)
      (fun policy => policy.name = name ∧ policy.clauses.map (·.raw) = raws) (read name raws) ∧
    ∀ p : RawPattern, (p.fault? = none ↔ p.FollowsGrammar) ∧
      ∀ e, p.fault? = some e → p.IsNamedBy e := by
  have first := firstProblem_read name raws
  exact ⟨first.exists_ok_iff.trans faults_eq_nil_iff, first,
    fun p => ⟨RawPattern.fault?_eq_none_iff, fun _ => RawPattern.isNamedBy_of_fault?⟩⟩

/-! ## Making the policy again -/

/-- A policy is made again of its name and its written clauses. -/
theorem read_raw (policy : Policy) :
    read policy.name (policy.clauses.map Clause.raw) = .ok policy := by
  have clauses := mapM_spellings Clause.read_raw policy.clauses
  have complete : firstIncomplete? 0 policy.clauses = none :=
    firstIncomplete?_of_complete policy.complete
  simp only [read, clauses, make, policy.named]
  rw [dif_neg Bool.false_ne_true]
  split
  · rename_i found
    rw [complete] at found
    cases found
  · rfl

/-! ## Policy files -/

/-- **The policy of a file**: the text of the file is a document with the clauses of the policy,
which goes by the name in the document or else by the name of the file. -/
def StandsIn (policy : Policy) (files : Files) (path : String) : Prop :=
  ∃ text document, files.text path = .ok text ∧ PolicyDocument.parse text = .ok document ∧
    document.name.or ((FilePath.name? path).map FilePath.stem) = some policy.name ∧
    policy.clauses.map (·.raw) = document.clauses

/-- All faults of a document that goes by a name, if there is one. -/
def documentFaults (name : Option String) (raws : List RawClause) : List PolicyError :=
  match name with
  | none => [.faulty .missingName]
  | some name => (faults name raws).map .faulty

/-- **All faults of a policy file**, in order. -/
def fileFaults (files : Files) (path : String) : List PolicyFileError :=
  match files.text path with
  | .error fault => [.unreadable path fault]
  | .ok text =>
    match PolicyDocument.parse text with
    | .error error => [.document (.unread error)]
    | .ok document =>
      let name := document.name.or ((FilePath.name? path).map FilePath.stem)
      (documentFaults name document.clauses).map .document

theorem firstProblem_ofDocument (name : Option String) (raws : List RawClause) :
    FirstProblem (documentFaults name raws)
      (fun policy => name = some policy.name ∧ policy.clauses.map (·.raw) = raws)
      (ofDocument name raws) := by
  cases name with
  | none => rfl
  | some name =>
    have steps : ofDocument (some name) raws = (read name raws).mapError .faulty := by
      unfold ofDocument
      dsimp only
      cases read name raws with
      | error fault => rfl
      | ok policy => rfl
    rw [steps]
    exact ((firstProblem_read name raws).mapError PolicyError.faulty).imp
      fun policy ⟨named, written⟩ => ⟨congrArg some named.symm, written⟩

/-- **A file gives its policy or its first fault.** -/
theorem firstProblem_load (files : Files) (path : String) :
    FirstProblem (fileFaults files path) (·.StandsIn files path) (load files path) := by
  unfold load fileFaults
  cases read : files.text path with
  | error fault => rfl
  | ok text =>
    dsimp only
    cases parsed : PolicyDocument.parse text with
    | error error => rfl
    | ok document =>
      exact ((firstProblem_ofDocument _ document.clauses).mapError PolicyFileError.document).imp
        fun policy ⟨named, written⟩ => ⟨text, document, read, parsed, named, written⟩

/-- **What is loaded is the policy of the file**, and it is loaded if there is one. -/
theorem load_eq_ok_iff {files : Files} {path : String} {policy : Policy} :
    load files path = .ok policy ↔ policy.StandsIn files path := by
  constructor
  · intro loaded
    have outcome := firstProblem_load files path
    rw [loaded] at outcome
    exact outcome.2
  · rintro ⟨text, document, read, parsed, named, written⟩
    have made : ofDocument (some policy.name) document.clauses = .ok policy := by
      rw [← written]
      simp only [ofDocument, policy.read_raw]
    simp only [load, read, parsed, named, made]
    rfl

end Policy

end Gatehouse
