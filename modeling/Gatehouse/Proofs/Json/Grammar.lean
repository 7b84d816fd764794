import Gatehouse.Json.Outline
import Mathlib.Data.List.Forall2

/-!
# Texts of JSON documents

A value can be written in many ways: there can be space between the tokens of its text, and a
character between quotes can be escaped even where it need not be.  This module says which
texts write a value, without a word on how they are read, and shows that the text that is
written for a value is one of them (`spelledBy_pretty`).

## Design decisions

*Tokens first.*  A value determines its tokens, and space can stand between any two of them.
So all freedom is in `Spelled`, and the structure of values is in `tokens` alone.

*Characters by number.*  An escape of one UTF-16 unit writes the character with this number.
No character has the number of half a pair, so nothing has to be said about halves.

*Numbers are left out.*  A number is a token, and no text is given for it.  The documents
that the theory speaks of hold none.
-/

namespace Gatehouse.Json

/-! ## Characters -/

/-- The letters that can stand behind a backslash, and the characters that they write. -/
def letterEscapes : List (Char × Char) :=
  [('"', '"'), ('\\', '\\'), ('/', '/'), ('b', '\x08'), ('f', '\x0c'), ('n', '\n'), ('r', '\r'),
    ('t', '\t')]

/-- A character can be written between quotes in this way. -/
inductive CharSpelled : Char → List Char → Prop
  | plain {c : Char} (visible : 0x20 ≤ c.toNat) (quote : c ≠ '"') (backslash : c ≠ '\\') :
      CharSpelled c [c]
  | letter {c e : Char} (escape : (e, c) ∈ letterEscapes) : CharSpelled c ['\\', e]
  | unit {c p q r s : Char} (number : Text.hexNumber? [p, q, r, s] = some c.toNat) :
      CharSpelled c ['\\', 'u', p, q, r, s]
  | pair {c p q r s p' q' r' s' : Char} {high low : Nat}
      (first : Text.hexNumber? [p, q, r, s] = some high)
      (second : Text.hexNumber? [p', q', r', s'] = some low)
      (opens : 0xD800 ≤ high ∧ high ≤ 0xDBFF) (closes : 0xDC00 ≤ low ∧ low ≤ 0xDFFF)
      (number : c.toNat = 0x10000 + (high - 0xD800) * 0x400 + (low - 0xDC00)) :
      CharSpelled c ['\\', 'u', p, q, r, s, '\\', 'u', p', q', r', s']

/-- Characters can be written between quotes in this way, one after the other. -/
inductive CharsSpelled : List Char → List Char → Prop
  | nil : CharsSpelled [] []
  | cons {c : Char} {cs written more : List Char} (first : CharSpelled c written)
      (others : CharsSpelled cs more) : CharsSpelled (c :: cs) (written ++ more)

/-! ## Tokens -/

/-- What the text of a value is made of. -/
inductive Token where
  | openArray
  | closeArray
  | openObject
  | closeObject
  | comma
  | colon
  | word (w : Word)
  | number (n : Number)
  | text (s : String)

/-- A token can be written in this way. -/
inductive Token.Spelled : Token → List Char → Prop
  | openArray : Spelled .openArray ['[']
  | closeArray : Spelled .closeArray [']']
  | openObject : Spelled .openObject ['\x7b']
  | closeObject : Spelled .closeObject ['\x7d']
  | comma : Spelled .comma [',']
  | colon : Spelled .colon [':']
  | word (w : Word) : Spelled (.word w) w.letters
  | text {s : String} {inside : List Char} (characters : CharsSpelled s.toList inside) :
      Spelled (.text s) ('"' :: (inside ++ ['"']))

/-- Tokens can be written in this way: one after the other, with space anywhere between them. -/
inductive Spelled : List Token → List Char → Prop
  | nil : Spelled [] []
  | space {c : Char} {ts : List Token} {cs : List Char} (blank : c ∈ [' ', '\n', '\r', '\t'])
      (others : Spelled ts cs) : Spelled ts (c :: cs)
  | token {t : Token} {ts : List Token} {written cs : List Char} (first : t.Spelled written)
      (others : Spelled ts cs) : Spelled (t :: ts) (written ++ cs)

/-! ## Values -/

/-- Lists of tokens, with a comma before each of them. -/
def commaLed (tss : List (List Token)) : List Token := tss.flatMap (Token.comma :: ·)

@[simp] theorem commaLed_cons (ts : List Token) (tss : List (List Token)) :
    commaLed (ts :: tss) = .comma :: (ts ++ commaLed tss) := List.flatMap_cons

/-- Lists of tokens, with commas between them. -/
def commaList : List (List Token) → List Token
  | [] => []
  | ts :: tss => ts ++ commaLed tss

mutual

/-- The tokens of a value. -/
def tokens : Json → List Token
  | null => [.word .null]
  | bool b => [.word (if b then .true else .false)]
  | number n => [.number n]
  | string text => [.text text]
  | array items => .openArray :: (commaList (itemTokens items) ++ [.closeArray])
  | object members => .openObject :: (commaList (memberTokens members) ++ [.closeObject])

/-- The tokens of the items of an array. -/
def itemTokens : List Json → List (List Token)
  | [] => []
  | item :: items => tokens item :: itemTokens items

/-- The tokens of the members of an object. -/
def memberTokens : List (String × Json) → List (List Token)
  | [] => []
  | (name, value) :: members => (.text name :: .colon :: tokens value) :: memberTokens members

end

theorem itemTokens_eq_map (items : List Json) : itemTokens items = items.map tokens := by
  induction items with
  | nil => rfl
  | cons item items ih => rw [itemTokens, ih, List.map_cons]

/-- The tokens of one member. -/
def tokensOfMember (m : String × Json) : List Token := .text m.1 :: .colon :: m.2.tokens

theorem memberTokens_eq_map (members : List (String × Json)) :
    memberTokens members = members.map tokensOfMember := by
  induction members with
  | nil => rfl
  | cons m members ih => rw [memberTokens, ih, List.map_cons, tokensOfMember]

/-- **The text writes the value.** -/
def SpelledBy (value : Json) (text : String) : Prop := Spelled value.tokens text.toList

/-! ## Putting texts together -/

namespace Spelled

variable {ts us : List Token} {cs ds : List Char}

theorem append (h : Spelled ts cs) (h' : Spelled us ds) : Spelled (ts ++ us) (cs ++ ds) := by
  induction h with
  | nil => exact h'
  | space blank _ ih => exact .space blank ih
  | token first _ ih =>
    rw [List.append_assoc]
    exact .token first ih

theorem single {t : Token} (h : t.Spelled cs) : Spelled [t] cs := by
  simpa using Spelled.token h .nil

theorem indent (n : Nat) : Spelled [] (List.replicate n ' ') := by
  induction n with
  | zero => exact .nil
  | succ n ih =>
    rw [List.replicate_succ]
    exact .space List.mem_cons_self ih

theorem lineBreak (level : Nat) : Spelled [] (lineBreak level) :=
  .space (List.mem_cons_of_mem _ List.mem_cons_self) (indent (2 * level))

/-- Texts one after the other, each with the separator before it. -/
theorem commaLed {separator : List Char} (comma : Spelled [.comma] separator)
    {tss : List (List Token)} {texts : List (List Char)}
    (h : List.Forall₂ Spelled tss texts) :
    Spelled (commaLed tss) (texts.flatMap (separator ++ ·)) := by
  induction h with
  | nil => exact .nil
  | cons first _ ih =>
    rw [commaLed_cons, List.flatMap_cons, List.append_assoc]
    exact comma.append (first.append ih)

end Spelled

theorem separated_cons (separator text : List Char) (texts : List (List Char)) :
    separated separator (text :: texts) = text ++ texts.flatMap (separator ++ ·) := by
  induction texts generalizing text with
  | nil => simp [separated]
  | cons next texts ih => simp [separated, ih]

theorem spelled_separated {separator : List Char} (comma : Spelled [.comma] separator)
    {tss : List (List Token)} {texts : List (List Char)}
    (h : List.Forall₂ Spelled tss texts) :
    Spelled (commaList tss) (separated separator texts) := by
  cases h with
  | nil => exact .nil
  | cons first others =>
    rw [separated_cons]
    exact first.append (.commaLed comma others)

/-- Texts between brackets, one to a line. -/
theorem spelled_onLines {opening closing : Token} {o c : Char} (opens : opening.Spelled [o])
    (closes : closing.Spelled [c]) (level : Nat) {tss : List (List Token)}
    {texts : List (List Char)} (h : List.Forall₂ Spelled tss texts) :
    Spelled (opening :: (commaList tss ++ [closing])) (onLines level o c texts) := by
  have first : Spelled [opening] [o] := .single opens
  have last : Spelled [closing] [c] := .single closes
  have comma : Spelled [.comma] (',' :: lineBreak (level + 1)) :=
    (Spelled.single .comma).append (.lineBreak (level + 1))
  -- Brackets with nothing between them stay on one line.
  by_cases none : texts = []
  · subst none
    cases h
    exact first.append last
  · have inner := (spelled_separated comma h).append ((Spelled.lineBreak level).append last)
    have all := first.append ((Spelled.lineBreak (level + 1)).append inner)
    simpa [onLines, none] using all

/-! ## What is written -/

/-- The escape by number of a control character. -/
theorem hexNumber?_control : ∀ n < 0x20,
    Text.hexNumber? ['0', '0', Text.hexDigit (n / 16), Text.hexDigit (n % 16)] = some n := by
  decide

theorem charSpelled_writeChar (c : Char) : CharSpelled c (Quotation.writeChar c) := by
  unfold Quotation.writeChar
  split
  case h_8 quote backslash _ _ _ _ _ =>
    split
    -- A control character without a letter of its own is written by its number.
    · exact .unit (hexNumber?_control c.toNat ‹_›)
    · exact .plain (Nat.le_of_not_lt ‹_›) quote backslash
  all_goals exact .letter (by decide)

theorem charsSpelled_flatMap (cs : List Char) :
    CharsSpelled cs (cs.flatMap Quotation.writeChar) := by
  induction cs with
  | nil => exact .nil
  | cons c cs ih => exact .cons (charSpelled_writeChar c) ih

theorem spelled_write (text : String) : Spelled [.text text] (Quotation.write text) :=
  .single (.text (charsSpelled_flatMap text.toList))

theorem indentedItems_eq_map (level : Nat) (items : List Json) :
    indentedItems level items = items.map (indented level) := by
  induction items with
  | nil => rfl
  | cons item items ih => rw [indentedItems, ih, List.map_cons]

theorem indentedMembers_eq_map (level : Nat) (members : List (String × Json)) :
    indentedMembers level members =
      members.map fun m => Quotation.write m.1 ++ ':' :: ' ' :: m.2.indented level := by
  induction members with
  | nil => rfl
  | cons m members ih => rw [indentedMembers, ih, List.map_cons]

/-- No number stands in the value. -/
inductive NumberFree : Json → Prop
  | null : NumberFree .null
  | bool (b : Bool) : NumberFree (.bool b)
  | string (text : String) : NumberFree (.string text)
  | array {items : List Json} (all : ∀ item ∈ items, NumberFree item) : NumberFree (.array items)
  | object {members : List (String × Json)} (all : ∀ m ∈ members, NumberFree m.2) :
      NumberFree (.object members)

theorem numberFree_strings (texts : List String) : NumberFree (strings texts) := by
  refine .array ?_
  intro item mem
  obtain ⟨text, -, rfl⟩ := List.mem_map.mp mem
  exact .string text

/-- A value is written on any level. -/
theorem spelled_indented {value : Json} (h : NumberFree value) (level : Nat) :
    Spelled value.tokens (value.indented level) := by
  induction h generalizing level with
  | null => exact .single (.word .null)
  | bool b =>
    cases b with
    | false => exact .single (.word .false)
    | true => exact .single (.word .true)
  | string text => exact spelled_write text
  | array _ ih =>
    rw [tokens, itemTokens_eq_map, indented, indentedItems_eq_map]
    refine spelled_onLines .openArray .closeArray level ?_
    rw [List.forall₂_map_left_iff, List.forall₂_map_right_iff, List.forall₂_same]
    exact fun item mem => ih item mem (level + 1)
  | object _ ih =>
    rw [tokens, memberTokens_eq_map, indented, indentedMembers_eq_map]
    refine spelled_onLines .openObject .closeObject level ?_
    rw [List.forall₂_map_left_iff, List.forall₂_map_right_iff, List.forall₂_same]
    intro m mem
    have value : Spelled m.2.tokens (' ' :: m.2.indented (level + 1)) :=
      .space List.mem_cons_self (ih m mem (level + 1))
    exact (spelled_write m.1).append ((Spelled.single .colon).append value)

/-- **What is written for a value writes it**, if it holds no number. -/
theorem spelledBy_pretty {value : Json} (h : NumberFree value) :
    value.SpelledBy value.pretty := by
  rw [SpelledBy, pretty, String.toList_ofList]
  exact spelled_indented h 0

end Gatehouse.Json
