import Gatehouse.Json.Outline
import Gatehouse.Text.Quoted

/-!
# Documents that cannot be read

A document is not read for one of two reasons.  Either it is no JSON, which is a
`Break`, or it is JSON of the wrong shape, which is a `Misfit`.  Only a misfit has a
wording, since it names what was found and what was expected.
-/

namespace Gatehouse.Json

/-- What was found where something else was expected. -/
inductive Found where
  | null
  | boolean (b : Bool)
  | number (n : Number)
  | text (text : String)
  | sequence
  | map
  /-- The bare name of a variant. -/
  | variantName

/-- Something between backquotes. -/
def backquoted (text : String) : String := "`" ++ text ++ "`"

/-- The description of what was found. -/
def Found.description : Found → String
  | null => "null"
  | boolean b => "boolean " ++ backquoted (if b then "true" else "false")
  | number (.integer n) => "integer " ++ backquoted (toString n)
  | number (.real x) => "floating point " ++ backquoted (String.ofList (realText x))
  | text s => "string " ++ Text.quoted s
  | sequence => "sequence"
  | map => "map"
  | variantName => "unit variant"

/-- Why a document has the wrong shape. -/
inductive Misfit where
  | wrongKind (found : Found) (expected : String)
  | wrongValue (found : Found) (expected : String)
  /-- A record is given by its values in order, and there are too few. -/
  | tooShort (count : Nat) (record : String) (expected : Nat)
  | unknownField (name : String) (known : List String)
  | unknownVariant (name : String) (known : List String)
  | duplicateField (name : String)
  | missingField (name : String)
  /-- None of the shapes that a type can have. -/
  | noShape (type : String)
  /-- The value has the right shape and is refused for a reason of its own. -/
  | refused (reason : String)

/-- A choice of names. -/
def choice : List String → String
  | [name] => backquoted name
  | [one, two] => backquoted one ++ " or " ++ backquoted two
  | names => "one of " ++ ", ".intercalate (names.map backquoted)

/-- The wording of a misfit. -/
def Misfit.message : Misfit → String
  | wrongKind found expected => "invalid type: " ++ found.description ++ ", expected " ++ expected
  | wrongValue found expected => "invalid value: " ++ found.description ++ ", expected " ++ expected
  | tooShort count record expected =>
    "invalid length " ++ toString count ++ ", expected " ++ record ++ " with " ++
      toString expected ++ (if expected = 1 then " element" else " elements")
  | unknownField name known => "unknown field " ++ backquoted name ++ ", expected " ++ choice known
  | unknownVariant name known =>
    "unknown variant " ++ backquoted name ++ ", expected " ++ choice known
  | duplicateField name => "duplicate field " ++ backquoted name
  | missingField name => "missing field " ++ backquoted name
  | noShape type => "data did not match any variant of untagged enum " ++ type
  | refused reason => reason

/-- Why a document is not read. -/
inductive ReadError where
  | broken (b : Break)
  | misfit (m : Misfit)

/-- The wording of an error. -/
def ReadError.message : ReadError → String
  | broken .malformed => "malformed"
  | broken .truncated => "truncated"
  | misfit m => m.message

/-- What the outline of a value is, for those who expected something else.  A value
that breaks off before its kind is known is no misfit. -/
def Outline.mismatch (expected : String) (outline : Outline) : ReadError :=
  let wrong (found : Found) : ReadError := .misfit (.wrongKind found expected)
  match outline with
  | .missing b => .broken b
  | .word w broken =>
    match broken, w with
    | some b, _ => .broken b
    | none, .null => wrong .null
    | none, .true => wrong (.boolean true)
    | none, .false => wrong (.boolean false)
  | .number n =>
    match n.value with
    | .error b => .broken b
    | .ok x => wrong (.number x)
  | .quotation q =>
    match q.value with
    | .error b => .broken b
    | .ok s => wrong (.text s)
  | .array _ _ => wrong .sequence
  | .object _ _ => wrong .map

end Gatehouse.Json
