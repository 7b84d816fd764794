import Gatehouse.Json.Number

/-!
# JSON values

`Json` is the value of a document, and this module writes it: in one line, or
spread over lines with an indent of two spaces for every level.

The members of an object are a list, in the order in which they are written.
-/

namespace Gatehouse

/-- A JSON value. -/
inductive Json where
  | null
  | bool (b : Bool)
  | number (n : Json.Number)
  | string (text : String)
  | array (items : List Json)
  | object (members : List (String × Json))

namespace Json

instance : Inhabited Json := ⟨null⟩

/-- A list of texts. -/
def strings (texts : List String) : Json := array (texts.map string)

/-- A text or nothing. -/
def optional : Option String → Json
  | none => null
  | some text => string text

/-- A whole number. -/
def natural (n : Nat) : Json := number (.integer n)

/-- Put a separator between texts. -/
def separated (separator : List Char) : List (List Char) → List Char
  | [] => []
  | [text] => text
  | text :: texts => text ++ separator ++ separated separator texts

/-- Texts between brackets, all in one line. -/
def inLine (opening closing : Char) (texts : List (List Char)) : List Char :=
  opening :: separated [','] texts ++ [closing]

/-- A line break with the indent of a level. -/
def lineBreak (level : Nat) : List Char := '\n' :: List.replicate (2 * level) ' '

/-- Texts between brackets, one to a line, indented one level deeper than the
brackets.  Brackets without anything between them stay together. -/
def onLines (level : Nat) (opening closing : Char) (texts : List (List Char)) : List Char :=
  if texts = [] then [opening, closing]
  else
    opening :: lineBreak (level + 1) ++ separated (',' :: lineBreak (level + 1)) texts ++
      lineBreak level ++ [closing]

mutual

/-- The characters of a value in one line. -/
def compact : Json → List Char
  | null => "null".toList
  | bool b => (if b then "true" else "false").toList
  | number n => n.text
  | string text => Quotation.write text
  | array items => inLine '[' ']' (compactItems items)
  | object members => inLine '\x7b' '\x7d' (compactMembers members)

/-- The items of an array, each in one line. -/
def compactItems : List Json → List (List Char)
  | [] => []
  | item :: items => compact item :: compactItems items

/-- The members of an object, each in one line. -/
def compactMembers : List (String × Json) → List (List Char)
  | [] => []
  | (name, value) :: members =>
    (Quotation.write name ++ ':' :: compact value) :: compactMembers members

end

mutual

/-- The characters of a value that stands on some level, spread over lines. -/
def indented (level : Nat) : Json → List Char
  | array items => onLines level '[' ']' (indentedItems (level + 1) items)
  | object members => onLines level '\x7b' '\x7d' (indentedMembers (level + 1) members)
  | value => compact value

/-- The items of an array, spread over lines. -/
def indentedItems (level : Nat) : List Json → List (List Char)
  | [] => []
  | item :: items => indented level item :: indentedItems level items

/-- The members of an object, spread over lines. -/
def indentedMembers (level : Nat) : List (String × Json) → List (List Char)
  | [] => []
  | (name, value) :: members =>
    (Quotation.write name ++ ':' :: ' ' :: indented level value) :: indentedMembers level members

end

/-- The value in one line. -/
def text (value : Json) : String := String.ofList value.compact

/-- The value spread over lines. -/
def pretty (value : Json) : String := String.ofList (value.indented 0)

end Json

end Gatehouse
