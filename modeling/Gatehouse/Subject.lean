import Gatehouse.Json.Reader

/-!
# Subjects

A subject is who asks.  There are two subjects that are no users: `default`, whose
grants everybody has, and `anonymous`, who has not signed in.  A user may be called
like one of them and is still a user, although the two look the same in a message.
-/

namespace Gatehouse

open Json (Reader ReadError)

/-- Who asks. -/
inductive Subject where
  /-- Nobody in particular: what is granted here is granted to everybody. -/
  | default
  /-- Somebody who has not signed in. -/
  | anonymous
  /-- A user with this name. -/
  | user (name : String)
  deriving DecidableEq, Repr

namespace Subject

/-- The subject that a text names. -/
def ofText (text : String) : Subject :=
  if text = "default" then default
  else if text = "anonymous" then anonymous
  else user text

/-- How the subject is called in a message. -/
def text : Subject → String
  | default => "default"
  | anonymous => "anonymous"
  | user name => name

/-- The subject whose grants everybody has. -/
def isDefault : Subject → Bool
  | default => true
  | _ => false

theorem isDefault_iff {subject : Subject} : subject.isDefault = true ↔ subject = default := by
  cases subject <;> simp [isDefault]

/-- A subject in a document: in contrast to its name it says what kind it is of. -/
def reader : Reader Subject :=
  Json.oneOf [("default", .bare default), ("anonymous", .bare anonymous),
    ("user", .holding fun depth o => user <$> Reader.text depth o)]

/-- Read the document of a subject. -/
def ofJson (text : String) : Except ReadError Subject := reader.document text

/-- The document of a subject. -/
def toJson : Subject → Json
  | user name => .object [("user", .string name)]
  | subject => .string subject.text

end Subject

end Gatehouse
