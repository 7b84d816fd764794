import Gatehouse.Files.Basic
import Gatehouse.Json.Reader
import Gatehouse.Policy.Basic

/-!
# Policy documents

A policy is written as a JSON document with a name and a list of clauses; a clause
has an effect, and its patterns are given as one text or as a list of texts.  Some
fields go by two names.  A version may be given and has no meaning.

Reading goes from the document to its raw clauses and from there, by `Policy.read`,
to the policy.  Writing spells the patterns again and always uses lists and the
first names, so there are many documents for a policy and one that is written.

A policy can be loaded from a file that holds its document.  If the document has no
name, the policy goes by the name of the file, without the extension.
-/

namespace Gatehouse

open Json (Reader ReadError Slot RecordShape)

/-- A policy document as it stands in the text. -/
structure PolicyDocument where
  name : Option String
  clauses : List RawClause
  deriving DecidableEq, Repr

namespace PolicyDocument

/-- An effect. -/
def effectReader : Reader Effect :=
  Json.oneOf [("allow", .bare .allow), ("deny", .bare .deny)]

/-- What has been read of a clause. -/
structure ClauseDraft where
  effect : Option Effect
  actions : Option (List String)
  objects : Option (List String)

/-- A clause. -/
def clauseShape : RecordShape ClauseDraft RawClause where
  label := "struct ClauseDocument"
  blank := ⟨none, none, none⟩
  slots := [
    .of "effect" (·.effect) (fun d x => { d with effect := some x }) effectReader,
    (Slot.of "action" (·.actions) (fun d x => { d with actions := some x })
      Reader.oneOrMany).named ["action", "actions"],
    (Slot.of "object" (·.objects) (fun d x => { d with objects := some x })
      Reader.oneOrMany).named ["object", "objects"]]
  isOpen := false
  finish d :=
    match d.effect, d.actions, d.objects with
    | none, _, _ => .error "effect"
    | _, none, _ => .error "action"
    | _, _, none => .error "object"
    | some effect, some actions, some objects => .ok ⟨effect, actions, objects⟩

/-- What has been read of a policy. -/
structure Draft where
  name : Option (Option String)
  version : Option (Option String)
  clauses : Option (List RawClause)

/-- A policy document. -/
def shape : RecordShape Draft PolicyDocument where
  label := "struct PolicyDocument"
  blank := ⟨none, none, none⟩
  slots := [
    .of "name" (·.name) (fun d x => { d with name := some x }) (.optional .text),
    .of "version" (·.version) (fun d x => { d with version := some x }) (.optional .text),
    (Slot.of "clauses" (·.clauses) (fun d x => { d with clauses := some x })
      (Reader.list clauseShape.read)).named ["clause", "clauses"]]
  isOpen := false
  finish d :=
    match d.clauses with
    | none => .error "clauses"
    | some clauses => .ok ⟨d.name.join, clauses⟩

/-- Read a policy document. -/
def parse (text : String) : Except ReadError PolicyDocument := shape.read.document text

end PolicyDocument

/-- Why a document holds no policy. -/
inductive PolicyError where
  | unread (error : ReadError)
  | faulty (fault : PolicyFault)

/-- The wording of an error. -/
def PolicyError.message : PolicyError → String
  | unread error => "Failed to parse policy document: " ++ error.message
  | faulty fault => fault.message

namespace Policy

/-- The policy of a document, under a name that may come from elsewhere. -/
def ofDocument (name : Option String) (clauses : List RawClause) : Except PolicyError Policy :=
  match name with
  | none => .error (.faulty .missingName)
  | some name =>
    match read name clauses with
    | .error fault => .error (.faulty fault)
    | .ok policy => .ok policy

/-- Read a policy that has its name in the document. -/
def ofJson (text : String) : Except PolicyError Policy :=
  match PolicyDocument.parse text with
  | .error error => .error (.unread error)
  | .ok document => ofDocument document.name document.clauses

/-- A clause as it is written. -/
def clauseJson (clause : RawClause) : Json :=
  .object [("effect", .string clause.effect.word), ("action", .strings clause.actions),
    ("object", .strings clause.objects)]

/-- The document of a policy. -/
def toDocument (policy : Policy) : Json :=
  .object [("name", .string policy.name),
    ("clauses", .array (policy.clauses.map fun clause => clauseJson clause.raw))]

/-- The text of a policy's document. -/
def toJson (policy : Policy) : String := policy.toDocument.pretty

end Policy

/-! ## Policy files -/

/-- Why a file gives no policy. -/
inductive PolicyFileError where
  /-- The file at the path cannot be read. -/
  | unreadable (path : String) (fault : FileFault)
  | document (error : PolicyError)

/-- The wording of an error. -/
def PolicyFileError.message : PolicyFileError → String
  | unreadable path fault => "Failed to read policy file " ++ path ++ ": " ++ fault.message
  | document error => error.message

/-- Load the policy from the file at a path. -/
def Policy.load (files : Files) (path : String) : Except PolicyFileError Policy :=
  match files.text path with
  | .error fault => .error (.unreadable path fault)
  | .ok text =>
    match PolicyDocument.parse text with
    | .error error => .error (.document (.unread error))
    | .ok document =>
      let name := document.name.or ((FilePath.name? path).map FilePath.stem)
      (Policy.ofDocument name document.clauses).mapError .document

end Gatehouse
