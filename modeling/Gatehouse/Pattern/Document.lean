import Gatehouse.Json.Reader
import Gatehouse.Pattern.Action
import Gatehouse.Pattern.Object

/-!
# Patterns in documents

In a document a pattern is its spelling, and a text that spells no pattern is refused as soon
as it is read.  Patterns for object paths and patterns for names of actions are read in the same
way, and differ in what they are spelled like.

The patterns of a policy are not read in this way.  They are texts in its document, because all
clauses are looked at before the first pattern is.
-/

namespace Gatehouse

open Json (Reader)

/-- Something is given by its spelling. -/
def Json.Reader.spelling {α : Type} (parse : String → Except PatternError α) : Reader α :=
  .refine .text fun text =>
    match parse text with
    | .ok x => .ok x
    | .error e => .error e.message

/-- A pattern for object paths. -/
def ObjectPattern.reader : Reader ObjectPattern := .spelling parse

/-- A pattern for names of actions. -/
def ActionPattern.reader : Reader ActionPattern := .spelling parse

end Gatehouse
