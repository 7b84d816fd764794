import Gatehouse.NameMap
import Gatehouse.Toml

/-!
# Reading TOML values into types

A settings document that does not fit is not read, without a word on what does not
fit.  So a reader is a partial function on values, and readers of records only have
to know their fields: every other name is refused, and a field may have a default.

A record may also be given as an array, which has the values of the fields in order.
-/

namespace Gatehouse.Toml

/-- How to read a value. -/
abbrev Reader (α : Type) := Toml → Option α

namespace Reader

/-- A text. -/
def string : Reader String
  | .text s => some s
  | _ => none

/-- A truth value. -/
def bool : Reader Bool
  | .truth b => some b
  | _ => none

/-- A natural number below `bound`. -/
def naturalBelow (bound : Nat) : Reader Nat
  | .integer n => if 0 ≤ n ∧ n < bound then some n.toNat else none
  | _ => none

/-- A natural number of 32 bits. -/
def word32 : Reader Nat := naturalBelow (Nat.pow 2 32)

/-- A natural number of 64 bits. -/
def word64 : Reader Nat := naturalBelow (Nat.pow 2 64)

/-- A double, or an integer of 64 bits in its place. -/
def real : Reader Float
  | .real x => some x
  | .integer n =>
    if 0 ≤ n ∧ n < Nat.pow 2 64 then some (UInt64.ofNat n.toNat).toFloat
    else if n < 0 ∧ -(Nat.pow 2 63) ≤ n then some (-(UInt64.ofNat (-n).toNat).toFloat)
    else none
  | _ => none

/-- A list of values. -/
def list {α : Type} (read : Reader α) : Reader (List α)
  | .array items => items.mapM read
  | _ => none

/-- A table of values of one kind. -/
def map {α : Type} (read : Reader α) : Reader (NameMap α)
  | .table entries => do
    let pairs ← entries.mapM fun (name, v) => (read v).map (name, ·)
    return NameMap.ofList pairs
  | _ => none

/-- The value of a word.  The word may be the only name in a table, with nothing under
it. -/
def word {α : Type} (words : List (String × α)) : Reader α
  | .text s => (words.find? (·.1 == s)).map (·.2)
  | .table [(s, .table [])] => (words.find? (·.1 == s)).map (·.2)
  | .table [(s, .array [])] => (words.find? (·.1 == s)).map (·.2)
  | _ => none

end Reader

/-- The values of a record's fields. -/
abbrev Fields := String → Option Toml

/-- The fields of a record, if the value is one. -/
def fields? (names : List String) : Toml → Option Fields
  | .table entries =>
    if entries.all fun e => names.contains e.1 then
      some fun name => (entries.find? (·.1 == name)).map (·.2)
    else none
  | .array items =>
    let entries := names.zip items
    some fun name => (entries.find? (·.1 == name)).map (·.2)
  | _ => none

namespace Fields

/-- The value of a field that has to be there. -/
def required {α : Type} (fields : Fields) (name : String) (read : Reader α) : Option α :=
  (fields name).bind read

/-- The value of a field with a default. -/
def getD {α : Type} (fields : Fields) (name : String) (read : Reader α) (default : α) : Option α :=
  match fields name with
  | none => some default
  | some v => read v

/-- The value of a field that may be left out. -/
def optional {α : Type} (fields : Fields) (name : String) (read : Reader α) : Option (Option α) :=
  match fields name with
  | none => some none
  | some v => (read v).map some

end Fields

end Gatehouse.Toml
