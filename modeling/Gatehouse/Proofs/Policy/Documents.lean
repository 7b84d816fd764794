import Gatehouse.Pattern.Document
import Gatehouse.Proofs.Json.Readers
import Gatehouse.Proofs.Policy.Acceptance

/-!
# A policy is read from all its documents

There are many documents for one policy.  The members of an object come in any order, some
fields go by two names, a list with one pattern in it can be given as the pattern alone, and a
version can stand anywhere and says nothing.  `Policy.DescribedBy` lists these ways, and
`Policy.ofJson_of_description` says that each of them, in every text that writes it, is read as
the policy that was meant.  The document that is written for a policy is one of them, so
writing a policy and reading it gives the policy back.  A pattern that stands alone in a document
has one description, which is its spelling (`Json.Reader.document_spelling`).

## Design decisions

*Two relations.*  Which values describe a policy is one question, and which texts write a value
is another (`Json.SpelledBy`).  Names and patterns with quotes or control characters in them
are a matter of the second one and are not met here.

*Two steps.*  A described policy is read as its name and its written clauses
(`PolicyDocument.reads_document`), and these make the policy (`Policy.read_raw`).  In the second
step nothing can fail, because what is checked there are fields of the types.
-/

namespace Gatehouse

open Json (Reader Entry)
open Json.Reader (Reads)

/-! ## Single patterns -/

/-- Whatever is given by its spelling is read from every text that writes the spelling. -/
theorem Json.Reader.document_spelling {α : Type} {parse : String → Except PatternError α}
    {spelling text : String} {x : α} (parsed : parse spelling = .ok x)
    (spelled : (Json.string spelling).SpelledBy text) :
    (Reader.spelling parse).document text = .ok x :=
  document_eq_of_spelledBy ((reads_text spelling).refine (by rw [parsed])) spelled

/-- **A pattern for object paths is read from its spelling.** -/
theorem ObjectPattern.document_reader (pattern : ObjectPattern) {text : String}
    (spelled : (Json.string pattern.text).SpelledBy text) : reader.document text = .ok pattern :=
  Reader.document_spelling pattern.parse_text spelled

/-- **A pattern for names of actions is read from its spelling.** -/
theorem ActionPattern.document_reader (pattern : ActionPattern) {text : String}
    (spelled : (Json.string pattern.text).SpelledBy text) : reader.document text = .ok pattern :=
  Reader.document_spelling pattern.parse_text spelled

/-! ## The ways of writing -/

/-- Texts can be given in this way: in a list, or as they are if there is one. -/
inductive GivenBy : List String → Json → Prop
  | list (texts : List String) : GivenBy texts (.strings texts)
  | one (text : String) : GivenBy [text] (.string text)

/-- A clause can be described in this way. -/
inductive RawClause.DescribedBy (clause : RawClause) : Json → Prop
  | object {members : List (String × Json)} {actionName objectName : String}
      {actions objects : Json}
      (actionNamed : actionName ∈ ["action", "actions"])
      (objectNamed : objectName ∈ ["object", "objects"])
      (acts : GivenBy clause.actions actions) (on : GivenBy clause.objects objects)
      (order : members.Perm
        [("effect", .string clause.effect.word), (actionName, actions), (objectName, objects)]) :
      DescribedBy clause (.object members)

/-- A policy can be described in this way.  There is no version, or it is null or a text. -/
inductive Policy.DescribedBy (policy : Policy) : Json → Prop
  | object {members : List (String × Json)} {clausesName : String} {clauses : List Json}
      (version : Option (Option String)) (clausesNamed : clausesName ∈ ["clause", "clauses"])
      (each : List.Forall₂ RawClause.DescribedBy (policy.clauses.map Clause.raw) clauses)
      (order : members.Perm
        (("name", .string policy.name) :: (clausesName, .array clauses) ::
          version.toList.map fun text => ("version", .optional text))) :
      DescribedBy policy (.object members)

namespace PolicyDocument

variable {depth : Nat}

theorem reads_effect (effect : Effect) :
    Reads effectReader depth (.string effect.word) effect := by
  cases effect <;> exact Json.reads_oneOf_bare rfl

theorem reads_patterns {texts : List String} {value : Json} (h : GivenBy texts value) :
    Reads Reader.oneOrMany (depth + 1) value texts := by
  cases h with
  | list => exact Reader.reads_oneOrMany_strings texts
  | one text => exact Reader.reads_oneOrMany_string text

/-- What a clause puts into its draft. -/
def clauseEntries (clause : RawClause) : List (Entry ClauseDraft) := [
  ⟨fun draft => draft.effect.isSome, fun draft => { draft with effect := some clause.effect }⟩,
  ⟨fun draft => draft.actions.isSome, fun draft => { draft with actions := some clause.actions }⟩,
  ⟨fun draft => draft.objects.isSome, fun draft => { draft with objects := some clause.objects }⟩]

theorem independent_clauseEntries (clause : RawClause) :
    (clauseEntries clause).Pairwise Entry.Independent := by
  refine .cons (List.forall_mem_cons.mpr ⟨?_, List.forall_mem_singleton.mpr ?_⟩)
    (.cons (List.forall_mem_singleton.mpr ?_) (List.pairwise_singleton _ _))
  all_goals exact ⟨fun _ => rfl, fun _ => rfl, fun _ => rfl⟩

/-- A description of a clause is read as the clause, whatever the order of its members. -/
theorem reads_clause {clause : RawClause} {value : Json} (h : clause.DescribedBy value) :
    Reads clauseShape.read (depth + 2) value clause := by
  cases h with
  | @object members actionName objectName actions objects actionNamed objectNamed acts on order =>
    have fills : List.Forall₂ (clauseShape.Fills (depth + 1))
        [("effect", .string clause.effect.word), (actionName, actions), (objectName, objects)]
        (clauseEntries clause) := by
      simp only [List.mem_cons, List.not_mem_nil, or_false] at actionNamed objectNamed
      refine .cons ?_ (.cons ?_ (.cons ?_ .nil))
      · exact ⟨_, rfl, rfl, fun _ => (reads_effect clause.effect).map _⟩
      · rcases actionNamed with rfl | rfl <;>
          exact ⟨_, rfl, rfl, fun _ => (reads_patterns acts).map _⟩
      · rcases objectNamed with rfl | rfl <;>
          exact ⟨_, rfl, rfl, fun _ => (reads_patterns on).map _⟩
    refine Json.RecordShape.reads_of_perm order fills (independent_clauseEntries clause) ?_ rfl
    exact List.forall_mem_cons.mpr
      ⟨rfl, List.forall_mem_cons.mpr ⟨rfl, List.forall_mem_singleton.mpr rfl⟩⟩

/-- What the members of a policy document put into its draft. -/
def entries (name : String) (clauses : List RawClause) (version : Option (Option String)) :
    List (Entry Draft) :=
  ⟨fun draft => draft.name.isSome, fun draft => { draft with name := some (some name) }⟩ ::
    ⟨fun draft => draft.clauses.isSome, fun draft => { draft with clauses := some clauses }⟩ ::
    version.toList.map fun text =>
      ⟨fun draft => draft.version.isSome, fun draft => { draft with version := some text }⟩

theorem independent_entries (name : String) (clauses : List RawClause)
    (version : Option (Option String)) :
    (entries name clauses version).Pairwise Entry.Independent := by
  cases version with
  | none =>
    refine .cons (List.forall_mem_singleton.mpr ?_) (List.pairwise_singleton _ _)
    exact ⟨fun _ => rfl, fun _ => rfl, fun _ => rfl⟩
  | some text =>
    refine .cons (List.forall_mem_cons.mpr ⟨?_, List.forall_mem_singleton.mpr ?_⟩)
      (.cons (List.forall_mem_singleton.mpr ?_) (List.pairwise_singleton _ _))
    all_goals exact ⟨fun _ => rfl, fun _ => rfl, fun _ => rfl⟩

theorem reads_clauses {clauses : List RawClause} {values : List Json}
    (each : List.Forall₂ RawClause.DescribedBy clauses values) :
    Reads (.list clauseShape.read) (depth + 3) (.array values) clauses :=
  Reader.reads_list (each.flip.imp fun _ _ h => reads_clause h)

/-- **A description of a policy is read as its name and its written clauses.** -/
theorem reads_document {policy : Policy} {value : Json} (h : policy.DescribedBy value) :
    Reads shape.read (depth + 4) value ⟨some policy.name, policy.clauses.map Clause.raw⟩ := by
  cases h with
  | @object members clausesName clauses version clausesNamed each order =>
    have fills : List.Forall₂ (shape.Fills (depth + 3))
        (("name", .string policy.name) :: (clausesName, .array clauses) ::
          version.toList.map fun text => ("version", .optional text))
        (entries policy.name (policy.clauses.map Clause.raw) version) := by
      simp only [List.mem_cons, List.not_mem_nil, or_false] at clausesNamed
      refine .cons ?_ (.cons ?_ ?_)
      · exact ⟨_, rfl, rfl, fun _ => (Reader.reads_optional_text (some policy.name)).map _⟩
      · rcases clausesNamed with rfl | rfl <;>
          exact ⟨_, rfl, rfl, fun _ => (reads_clauses each).map _⟩
      · cases version with
        | none => exact .nil
        | some text =>
          exact .cons ⟨_, rfl, rfl, fun _ => (Reader.reads_optional_text text).map _⟩ .nil
    refine Json.RecordShape.reads_of_perm order fills (independent_entries _ _ _) ?_ ?_
    -- No field is filled in the blank draft, and in the end the version is dropped.
    · cases version with
      | none => exact List.forall_mem_cons.mpr ⟨rfl, List.forall_mem_singleton.mpr rfl⟩
      | some text =>
        exact List.forall_mem_cons.mpr
          ⟨rfl, List.forall_mem_cons.mpr ⟨rfl, List.forall_mem_singleton.mpr rfl⟩⟩
    · cases version <;> rfl

end PolicyDocument

namespace RawClause

theorem describedBy_clauseJson (clause : RawClause) :
    clause.DescribedBy (Policy.clauseJson clause) :=
  .object List.mem_cons_self List.mem_cons_self (.list _) (.list _) (.refl _)

theorem numberFree_clauseJson (clause : RawClause) :
    Json.NumberFree (Policy.clauseJson clause) := by
  refine .object (List.forall_mem_cons.mpr ⟨.string _, List.forall_mem_cons.mpr
    ⟨Json.numberFree_strings _, List.forall_mem_singleton.mpr (Json.numberFree_strings _)⟩⟩)

end RawClause

namespace Policy

/-- The document that is written for a policy describes it. -/
theorem describedBy_toDocument (policy : Policy) : policy.DescribedBy policy.toDocument := by
  have each : List.Forall₂ RawClause.DescribedBy (policy.clauses.map Clause.raw)
      (policy.clauses.map fun clause => clauseJson clause.raw) := by
    rw [List.forall₂_map_left_iff, List.forall₂_map_right_iff, List.forall₂_same]
    exact fun clause _ => clause.raw.describedBy_clauseJson
  exact .object none (List.mem_cons_of_mem _ List.mem_cons_self) each (.refl _)

theorem numberFree_toDocument (policy : Policy) : Json.NumberFree policy.toDocument := by
  refine .object (List.forall_mem_cons.mpr ⟨.string _, List.forall_mem_singleton.mpr (.array ?_)⟩)
  intro item mem
  obtain ⟨clause, -, rfl⟩ := List.mem_map.mp mem
  exact clause.raw.numberFree_clauseJson

/-- **A policy is read from every text that describes it**, and the text that is written for a
policy is one of them. -/
theorem ofJson_of_description (policy : Policy) :
    (∀ (document : Json) (text : String), policy.DescribedBy document → document.SpelledBy text →
      ofJson text = .ok policy) ∧
    policy.DescribedBy policy.toDocument ∧ policy.toDocument.SpelledBy policy.toJson ∧
    ofJson policy.toJson = .ok policy := by
  have reads : ∀ (document : Json) (text : String), policy.DescribedBy document →
      document.SpelledBy text → ofJson text = .ok policy := by
    intro document text describes spelled
    have parsed : PolicyDocument.parse text =
        .ok ⟨some policy.name, policy.clauses.map Clause.raw⟩ :=
      Reader.document_eq_of_spelledBy (PolicyDocument.reads_document describes) spelled
    simp only [ofJson, parsed, ofDocument, policy.read_raw]
  have describes : policy.DescribedBy policy.toDocument := policy.describedBy_toDocument
  have spelled : policy.toDocument.SpelledBy policy.toJson :=
    Json.spelledBy_pretty policy.numberFree_toDocument
  exact ⟨reads, describes, spelled, reads _ _ describes spelled⟩

end Policy

end Gatehouse
