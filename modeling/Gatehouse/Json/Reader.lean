import Gatehouse.Json.Misfit

/-!
# Reading documents into types

A `Reader` walks through the outline of a document in the order of the text and stops
at the first problem.  Readers for texts, numbers, lists and so on are put together
to readers for the types of a program; the two that carry rules of their own are
`RecordShape.read` and `oneOf`.

*Records.*  A record is an object, or an array of its values in the order of its
fields.  The reader fills a draft, slot by slot.  A field that is not known and a
field that is given twice are refused as soon as their name is read, before their
value; what is missing is noticed at the end, in the order of the fields.

*Alternatives.*  A variant is given by its name, or by an object whose only member
has that name.
-/

namespace Gatehouse.Json

/-- How to read a value, with so many levels of nesting left. -/
abbrev Reader (α : Type) := Nat → Outline → Except ReadError α

/-- A break as a reason for not reading. -/
def lift {α : Type} : Except Break α → Except ReadError α
  | .ok x => .ok x
  | .error b => .error (.broken b)

/-- Go into an array or an object, if there is a level left. -/
def enter {α : Type} (depth : Nat) (read : Nat → Except ReadError α) : Except ReadError α :=
  match depth with
  | 0 => .error (.broken .malformed)
  | deeper + 1 => read deeper

namespace Reader

/-- A text. -/
def textFor (expected : String) : Reader String := fun _ o =>
  match o with
  | .quotation q => lift q.value
  | o => .error (o.mismatch expected)

/-- A text, where nothing else is known of it. -/
def text : Reader String := textFor "a string"

/-- A truth value. -/
def bool : Reader Bool := fun _ o =>
  match o with
  | .word .true none => .ok true
  | .word .false none => .ok false
  | o => .error (o.mismatch "a boolean")

/-- No value at all. -/
def nothing : Reader Unit := fun _ o =>
  match o with
  | .word .null none => .ok ()
  | o => .error (o.mismatch "unit")

/-- A natural number below `bound`. -/
def naturalBelow (bound : Nat) (expected : String) : Reader Nat := fun _ o =>
  match o with
  | .number n =>
    match n.value with
    | .error b => .error (.broken b)
    | .ok (.integer i) =>
      if 0 ≤ i ∧ i < bound then .ok i.toNat
      else .error (.misfit (.wrongValue (.number (.integer i)) expected))
    | .ok (.real x) => .error (.misfit (.wrongKind (.number (.real x)) expected))
  | o => .error (o.mismatch expected)

/-- A natural number of 32 bits. -/
def word32 : Reader Nat := naturalBelow (Nat.pow 2 32) "u32"

/-- A natural number of 64 bits. -/
def word64 : Reader Nat := naturalBelow (Nat.pow 2 64) "u64"

/-- An integer as a double. -/
def ofInteger (i : Int) : Float :=
  if 0 ≤ i then (UInt64.ofNat i.toNat).toFloat else -(UInt64.ofNat (-i).toNat).toFloat

/-- A double, or an integer in its place. -/
def real : Reader Float := fun _ o =>
  match o with
  | .number n =>
    match n.value with
    | .error b => .error (.broken b)
    | .ok (.integer i) => .ok (ofInteger i)
    | .ok (.real x) => .ok x
  | o => .error (o.mismatch "f64")

/-- Any value. -/
def any : Reader Json := fun depth o => lift (o.value? depth)

/-- A value or nothing. -/
def optional {α : Type} (read : Reader α) : Reader (Option α) := fun depth o =>
  match o with
  | .word .null none => .ok none
  | .word .null (some b) => .error (.broken b)
  | o => some <$> read depth o

/-- A list of values. -/
def list {α : Type} (read : Reader α) : Reader (List α) := fun depth o =>
  match o with
  | .array items ending =>
    enter depth fun deeper => do
      let xs ← items.mapM (read deeper)
      lift (ending.finish xs)
  | o => .error (o.mismatch "a sequence")

/-- A text or a list of texts.  What it is is looked at only when it has been read. -/
def oneOrMany : Reader (List String) := fun depth o => do
  match ← any depth o with
  | .string s => .ok [s]
  | .array items =>
    let texts := items.filterMap fun | .string s => some s | _ => none
    if texts.length = items.length then .ok texts
    else .error (.misfit (.noShape "OneOrMany"))
  | _ => .error (.misfit (.noShape "OneOrMany"))

/-- A value that can be refused once it is read. -/
def refine {α β : Type} (read : Reader α) (accept : α → Except String β) : Reader β :=
  fun depth o => do
    let x ← read depth o
    match accept x with
    | .ok y => .ok y
    | .error reason => .error (.misfit (.refused reason))

/-- Read a whole document: nothing may follow the value. -/
def document {α : Type} (read : Reader α) (text : String) : Except ReadError α := do
  let (outline, more) := Outline.ofText text
  let x ← read Outline.maxDepth outline
  if more then .error (.broken .malformed) else .ok x

end Reader

/-! ## Records -/

/-- A field of a record that is read into drafts of type `σ`. -/
structure Slot (σ : Type) where
  name : String
  /-- All names that the field goes by, as they are listed. -/
  names : List String
  isFilled : σ → Bool
  fill : σ → Reader σ

/-- The slot of a field with one name. -/
def Slot.of {σ α : Type} (name : String) (get : σ → Option α) (set : σ → α → σ)
    (read : Reader α) : Slot σ where
  name := name
  names := [name]
  isFilled draft := (get draft).isSome
  fill draft depth o := set draft <$> read depth o

/-- The slot with other names for its field. -/
def Slot.named {σ : Type} (slot : Slot σ) (names : List String) : Slot σ :=
  { slot with names := names }

/-- A record type. -/
structure RecordShape (σ α : Type) where
  /-- What the type is called where another value stands. -/
  label : String
  blank : σ
  slots : List (Slot σ)
  /-- Members with other names are passed over. -/
  isOpen : Bool
  /-- The record, or the first field that is missing. -/
  finish : σ → Except String α

namespace RecordShape

variable {σ α : Type}

/-- All names that are listed when another one is met. -/
def fieldNames (shape : RecordShape σ α) : List String := shape.slots.flatMap (·.names)

/-- Read one member into the draft. -/
def readMember (shape : RecordShape σ α) (depth : Nat) (draft : σ) (member : Outline × Outline) :
    Except ReadError σ := do
  let name ← lift (Outline.nameText member.1)
  match shape.slots.find? (fun slot => slot.names.contains name) with
  | none =>
    if shape.isOpen then
      lift ((fun _ => draft) <$> member.2.skim)
    else .error (.misfit (.unknownField name shape.fieldNames))
  | some slot =>
    if slot.isFilled draft then .error (.misfit (.duplicateField slot.name))
    else slot.fill draft depth member.2

/-- Read values into the slots, one after the other.  The second result is what has
no slot. -/
def readItems (depth : Nat) : List (Slot σ) → σ → List Outline →
    Except ReadError (σ × List Outline)
  | [], draft, items => .ok (draft, items)
  | _ :: _, draft, [] => .ok (draft, [])
  | slot :: slots, draft, item :: items => do
    let draft ← slot.fill draft depth item
    readItems depth slots draft items

/-- The record of a draft from an object. -/
def ofMembers (shape : RecordShape σ α) (draft : σ) : Except ReadError α :=
  match shape.finish draft with
  | .ok x => .ok x
  | .error name => .error (.misfit (.missingField name))

/-- The record of a draft from an array. -/
def ofItems (shape : RecordShape σ α) (draft : σ) : Except ReadError α :=
  match shape.finish draft with
  | .ok x => .ok x
  | .error name =>
    .error (.misfit (.tooShort (shape.slots.findIdx fun slot => slot.name == name)
      shape.label shape.slots.length))

/-- Read a record. -/
def read (shape : RecordShape σ α) : Reader α := fun depth o =>
  match o with
  | .object members ending =>
    enter depth fun deeper => do
      let draft ← members.foldlM (shape.readMember deeper) shape.blank
      let draft ← lift (ending.finish draft)
      shape.ofMembers draft
  | .array items ending =>
    enter depth fun deeper => do
      let (draft, left) ← readItems deeper shape.slots shape.blank items
      -- A value too many breaks the document, and it does so before a field is found missing.
      if left.isEmpty then
        let draft ← lift (ending.finish draft)
        shape.ofItems draft
      else .error (.broken .malformed)
  | o => .error (o.mismatch shape.label)

end RecordShape

/-! ## Alternatives -/

/-- A variant of a type. -/
inductive Variant (α : Type) where
  /-- The name is all there is. -/
  | bare (x : α)
  /-- The variant holds a value. -/
  | holding (read : Reader α)

/-- The variant of a name. -/
def variant? {α : Type} (variants : List (String × Variant α)) (name : String) :
    Except ReadError (Variant α) :=
  match variants.find? (·.1 == name) with
  | some (_, v) => .ok v
  | none => .error (.misfit (.unknownVariant name (variants.map (·.1))))

/-- Read a value of a type with variants. -/
def oneOf {α : Type} (variants : List (String × Variant α)) : Reader α := fun depth o =>
  match o with
  | .quotation q => do
    let name ← lift q.value
    match ← variant? variants name with
    | .bare x => .ok x
    | .holding _ => .error (.misfit (.wrongKind .variantName "newtype variant"))
  | .object [] ending => do
    lift (ending.finish ())
    .error (.broken .malformed)
  | .object ((name, value) :: members) ending =>
    enter depth fun deeper => do
      let name ← Reader.textFor "variant identifier" deeper name
      let x ← match ← variant? variants name with
        | .bare x => (fun _ => x) <$> Reader.nothing deeper value
        | .holding read => read deeper value
      if members.isEmpty then lift (ending.finish x) else .error (.broken .malformed)
  | .missing b => .error (.broken b)
  | _ => .error (.broken .malformed)

end Gatehouse.Json
