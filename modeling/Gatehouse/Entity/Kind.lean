import Gatehouse.Entity.Template

/-!
# Kinds of entities

A kind of entity knows under which path each of its entities is found, and which
verbs apply to them.  A verb on an entity is then a request like any other: an action,
which is the kind and the verb with a dot between them, on an object path.
-/

namespace Gatehouse

/-- A kind of entity. -/
structure EntityKind where
  name : String
  template : PathTemplate
  /-- The verbs that apply. -/
  verbs : List String
  deriving DecidableEq

/-- Why there is no kind, or no request for an entity of it. -/
inductive EntityFault where
  | template (text : String) (fault : TemplateFault)
  /-- The verb does not apply. -/
  | unknownVerb (kind verb : String)
  /-- The path cannot be rendered. -/
  | field (kind : String) (fault : FieldFault)
  deriving DecidableEq, Repr

/-- The wording of a fault. -/
def EntityFault.message : EntityFault → String
  | template text fault => "Invalid path template `" ++ text ++ "`: " ++ fault.reason
  | unknownVerb kind verb => "Action '" ++ verb ++ "' does not apply to '" ++ kind ++ "'"
  | field kind (.missing name) =>
    "Entity '" ++ kind ++ "' has no value for path field '" ++ name ++ "'"
  | field kind (.invalid name value) =>
    "Entity '" ++ kind ++ "' field '" ++ name ++ "' value `" ++ value ++
      "` is not a valid path segment"

namespace EntityKind

/-- Make a kind. -/
def make (name template : String) (verbs : List String) : Except EntityFault EntityKind :=
  match PathTemplate.parse template with
  | .error fault => .error (.template template fault)
  | .ok parsed => .ok ⟨name, parsed, verbs⟩

/-- The action for a verb. -/
def action (kind : EntityKind) (verb : String) : Except EntityFault String :=
  if verb ∈ kind.verbs then .ok (kind.name ++ "." ++ verb)
  else .error (.unknownVerb kind.name verb)

/-- The path of the entity with these values of its fields. -/
def path (kind : EntityKind) (fields : String → Option String) : Except EntityFault String :=
  match kind.template.render fields with
  | .error fault => .error (.field kind.name fault)
  | .ok path => .ok path

/-- The request for a verb on an entity: the action is looked at before the path. -/
def request (kind : EntityKind) (verb : String) (fields : String → Option String) :
    Except EntityFault (String × String) :=
  match kind.action verb with
  | .error fault => .error fault
  | .ok action =>
    match kind.path fields with
    | .error fault => .error fault
    | .ok path => .ok (action, path)

end EntityKind

end Gatehouse
