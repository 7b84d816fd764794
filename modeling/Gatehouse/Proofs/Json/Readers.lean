import Gatehouse.Json.Reader
import Gatehouse.Proofs.Json.Outlining
import Mathlib.Data.List.Perm.Basic

/-!
# What readers read

A reader is given an outline, and one value has many.  `Reader.Reads` says that a reader reads
a value from every outline of it, so that a statement about a reader is one about values, and
with `Reader.document_eq_of_spelledBy` one about every text that writes the value.

There is one lemma for each way of making readers.  The one for records has an idea in it: the
members of an object come in any order, each fills its own slot of the draft, and what is put
into one slot is not seen by another.  So the puts can be exchanged, and the draft in the end is
the same as if the members had come in the order of the fields (`RecordShape.reads_of_perm`).
-/

namespace Gatehouse.Json

variable {σ α : Type}

namespace Reader

/-- The reader reads the value as `x`, with so many levels of nesting left. -/
def Reads (read : Reader α) (depth : Nat) (value : Json) (x : α) : Prop :=
  ∀ ⦃outline : Outline⦄, Outlined value outline → read depth outline = .ok x

variable {read : Reader α} {depth : Nat} {value : Json} {x : α}

/-- **A document is read from every text that writes it.** -/
theorem document_eq_of_spelledBy {text : String} (h : read.Reads Outline.maxDepth value x)
    (spelled : value.SpelledBy text) : read.document text = .ok x := by
  obtain ⟨outline, outlined, holds⟩ := exists_outlined_of_spelledBy spelled
  simp only [document, outlined]
  rw [h holds]
  rfl

/-- What is read is put somewhere, as in the slot of a field. -/
theorem Reads.map {β : Type} (h : read.Reads depth value x) (f : α → β) :
    Reads (fun depth outline => f <$> read depth outline) depth value (f x) := by
  intro outline outlined
  show f <$> read depth outline = .ok (f x)
  rw [h outlined]
  rfl

/-- What has been read and is accepted. -/
theorem Reads.refine {β : Type} {accept : α → Except String β} {y : β}
    (h : read.Reads depth value x) (accepted : accept x = .ok y) :
    Reads (.refine read accept) depth value y := by
  intro outline outlined
  unfold Reader.refine
  rw [h outlined]
  simp only [bind, Except.bind, accepted]

theorem reads_text (s : String) : Reader.text.Reads depth (.string s) s := by
  intro outline h
  cases h with
  | string reads =>
    rw [text, textFor, reads]
    rfl

theorem reads_optional_text (s : Option String) :
    (Reader.optional .text).Reads depth (.optional s) s := by
  intro outline h
  cases s with
  | none =>
    cases h
    rfl
  | some s =>
    have reads : Reader.text depth outline = .ok s := reads_text s h
    cases h
    rw [optional, reads]
    · rfl
    all_goals exact nofun

/-- The items of a list are read one after the other. -/
theorem mapM_of_reads {values : List Json} {xs : List α} {items : List Outline}
    (h : List.Forall₂ (read.Reads depth) values xs) (all : List.Forall₂ Outlined values items) :
    items.mapM (read depth) = .ok xs := by
  induction h generalizing items with
  | nil =>
    cases all
    rfl
  | cons first _ ih =>
    cases all with
    | cons holds all =>
      rw [List.mapM_cons, first holds, ih all]
      rfl

theorem reads_list {values : List Json} {xs : List α}
    (h : List.Forall₂ (read.Reads depth) values xs) :
    (Reader.list read).Reads (depth + 1) (.array values) xs := by
  intro outline outlined
  cases outlined with
  | array all =>
    rw [list, enter, mapM_of_reads h all]
    rfl

/-- One text in place of a list. -/
theorem reads_oneOrMany_string (s : String) : oneOrMany.Reads depth (.string s) [s] := by
  intro outline h
  cases h with
  | string reads =>
    rw [oneOrMany, any, Outline.value?, reads]
    rfl

/-- The value of an array of texts. -/
theorem itemValues_strings {texts : List String} {items : List Outline}
    (all : List.Forall₂ Outlined (texts.map string) items) :
    Outline.itemValues depth items = .ok (texts.map string) := by
  induction texts generalizing items with
  | nil =>
    cases all
    rfl
  | cons s texts ih =>
    cases all with
    | cons holds all =>
      cases holds with
      | string reads =>
        rw [Outline.itemValues, ih all, Outline.value?, reads]
        rfl

theorem reads_oneOrMany_strings (texts : List String) :
    oneOrMany.Reads (depth + 1) (.strings texts) texts := by
  intro outline h
  cases h with
  | @array _ items all =>
    have value : Outline.value? (depth + 1) (.array items .closed) = .ok (.strings texts) := by
      rw [Outline.value?, itemValues_strings all]
      rfl
    rw [oneOrMany, any, value]
    simp [lift, bind, Except.bind, strings]

end Reader

/-- A variant without a value, given by its name. -/
theorem reads_oneOf_bare {variants : List (String × Variant α)} {name : String} {x : α}
    {depth : Nat} (h : variant? variants name = .ok (.bare x)) :
    Reader.Reads (oneOf variants) depth (.string name) x := by
  intro outline outlined
  cases outlined with
  | string reads =>
    rw [oneOf, reads]
    simp [lift, bind, Except.bind, h]

/-! ## Records -/

/-- What is put into a draft for a field, and how to tell that the field is filled. -/
structure Entry (σ : Type) where
  isFilled : σ → Bool
  put : σ → σ

/-- Neither of two entries is seen by the other one. -/
structure Entry.Independent (one other : Entry σ) : Prop where
  commute : ∀ draft, other.put (one.put draft) = one.put (other.put draft)
  unseen : ∀ draft, other.isFilled (one.put draft) = other.isFilled draft
  unseeing : ∀ draft, one.isFilled (other.put draft) = one.isFilled draft

theorem Entry.Independent.symm {one other : Entry σ} (h : one.Independent other) :
    other.Independent one :=
  ⟨fun draft => (h.commute draft).symm, h.unseeing, h.unseen⟩

/-- The draft with entries put into it, one after the other. -/
def putAll (draft : σ) (entries : List (Entry σ)) : σ :=
  entries.foldl (fun draft entry => entry.put draft) draft

/-- Independent entries can be put into a draft in any order. -/
theorem putAll_of_perm {entries others : List (Entry σ)}
    (independent : entries.Pairwise Entry.Independent) (perm : entries.Perm others) (draft : σ) :
    putAll draft entries = putAll draft others := by
  induction perm generalizing draft with
  | nil => rfl
  | cons entry _ ih => exact ih independent.of_cons (entry.put draft)
  | swap one other entries =>
    have apart := (List.pairwise_cons.mp independent).1 one List.mem_cons_self
    simp only [putAll, List.foldl_cons]
    rw [apart.commute]
  | trans first _ ih ih' =>
    exact (ih independent draft).trans (ih' (independent.perm first fun h => h.symm) draft)

namespace RecordShape

variable {shape : RecordShape σ α} {depth : Nat}

/-- The member has a slot, and reading it puts the entry into a draft. -/
def Fills (shape : RecordShape σ α) (depth : Nat) (m : String × Json) (entry : Entry σ) : Prop :=
  ∃ slot : Slot σ, shape.slots.find? (fun slot => slot.names.contains m.1) = some slot ∧
    slot.isFilled = entry.isFilled ∧
    ∀ draft, Reader.Reads (slot.fill draft) depth m.2 (entry.put draft)

theorem readMember_of_fills {m : String × Json} {entry : Entry σ} {member : Outline × Outline}
    {draft : σ} (h : shape.Fills depth m entry) (outlined : MemberOutlined m member)
    (free : entry.isFilled draft = false) :
    shape.readMember depth draft member = .ok (entry.put draft) := by
  obtain ⟨slot, found, filled, reads⟩ := h
  rw [← filled] at free
  cases outlined with
  | mk named holds =>
    rw [readMember, named]
    simp only [lift, bind, Except.bind, found, free, reads draft holds]
    rfl

/-- The members of an object fill the draft one after the other. -/
theorem foldlM_readMember {values : List (String × Json)} {entries : List (Entry σ)}
    {members : List (Outline × Outline)} {draft : σ}
    (fills : List.Forall₂ (shape.Fills depth) values entries)
    (outlined : List.Forall₂ MemberOutlined values members)
    (independent : entries.Pairwise Entry.Independent)
    (free : ∀ entry ∈ entries, entry.isFilled draft = false) :
    members.foldlM (shape.readMember depth) draft = .ok (putAll draft entries) := by
  induction fills generalizing members draft with
  | nil =>
    cases outlined
    rfl
  | cons first _ ih =>
    cases outlined with
    | cons holds outlined =>
      rw [List.pairwise_cons] at independent
      rw [List.forall_mem_cons] at free
      rw [List.foldlM_cons, readMember_of_fills first holds free.1]
      refine ih outlined independent.2 ?_
      intro entry mem
      rw [(independent.1 entry mem).unseen]
      exact free.2 entry mem

/-- **The members of an object can stand in any order.** -/
theorem reads_of_perm {values fields : List (String × Json)} {entries : List (Entry σ)} {x : α}
    (perm : values.Perm fields) (fills : List.Forall₂ (shape.Fills depth) fields entries)
    (independent : entries.Pairwise Entry.Independent)
    (free : ∀ entry ∈ entries, entry.isFilled shape.blank = false)
    (finish : shape.finish (putAll shape.blank entries) = .ok x) :
    shape.read.Reads (depth + 1) (.object values) x := by
  -- The entries in the order of the members, which is the one in which they are put.
  obtain ⟨ordered, fills, same⟩ := List.perm_comp_forall₂ perm fills
  have apart : ordered.Pairwise Entry.Independent :=
    independent.perm same.symm fun h => h.symm
  have draft : putAll shape.blank ordered = putAll shape.blank entries :=
    putAll_of_perm apart same shape.blank
  intro outline h
  cases h with
  | object all =>
    have filled := foldlM_readMember fills all apart fun entry mem =>
      free entry (same.mem_iff.mp mem)
    rw [read, enter, filled, draft]
    simp [bind, Except.bind, Ending.finish, lift, ofMembers, finish]

end RecordShape

end Gatehouse.Json
