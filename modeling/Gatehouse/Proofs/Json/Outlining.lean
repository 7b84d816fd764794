import Gatehouse.Proofs.Json.Grammar

/-!
# Texts of the grammar have an outline

The reader of a document works in three passes: characters to lexemes, lexemes to an outline,
and quoted pieces to characters where a text is asked for.  This module follows them on a text
that writes a value.  Every pass goes through without a break, and what comes out is an outline
of the value (`exists_outlined_of_spelledBy`), whatever space and escapes the text has.

`Outlined` says what that outline is like.  It is a relation and no function, since a quotation
keeps the pieces that it was written with.
-/

namespace Gatehouse.Json

/-! ## Quoted texts -/

namespace Quotation

/-- The quotation with more pieces in front. -/
def prepend (pieces : List Piece) (q : Quotation) : Quotation :=
  { q with pieces := pieces ++ q.pieces }

/-- A plain character is a piece. -/
theorem lex_plain {c : Char} (visible : 0x20 ≤ c.toNat) (quote : c ≠ '"') (backslash : c ≠ '\\')
    (rest : List Char) : lex (c :: rest) = ((lex rest).1.cons (.char c), (lex rest).2) := by
  rw [lex]
  · rw [if_neg (Nat.not_lt.mpr visible)]
  all_goals simp_all

theorem escaped?_of_mem {c e : Char} (h : (e, c) ∈ letterEscapes) : escaped? e = some c := by
  simp only [letterEscapes, List.mem_cons, Prod.mk.injEq, List.not_mem_nil, or_false] at h
  rcases h with ⟨rfl, rfl⟩ | ⟨rfl, rfl⟩ | ⟨rfl, rfl⟩ | ⟨rfl, rfl⟩ | ⟨rfl, rfl⟩ | ⟨rfl, rfl⟩ |
    ⟨rfl, rfl⟩ | ⟨rfl, rfl⟩ <;> rfl

theorem lex_letter {c e : Char} (escape : (e, c) ∈ letterEscapes) (rest : List Char) :
    lex ('\\' :: e :: rest) = ((lex rest).1.cons (.char c), (lex rest).2) := by
  have character : escaped? e = some c := escaped?_of_mem escape
  have unit : e ≠ 'u' := by
    rintro rfl
    cases character
  rw [lex]
  · rw [character]
  all_goals simp_all

theorem lex_unit {p q r s : Char} {n : Nat} (number : Text.hexNumber? [p, q, r, s] = some n)
    (rest : List Char) :
    lex ('\\' :: 'u' :: p :: q :: r :: s :: rest) =
      ((lex rest).1.cons (.unit n), (lex rest).2) := by
  rw [lex, number]

/-- No character has the number of half a pair. -/
theorem isUnit_toNat (c : Char) : isHighUnit c.toNat = false ∧ isLowUnit c.toNat = false := by
  have valid : c.toNat < 0xD800 ∨ 0xDFFF < c.toNat ∧ c.toNat < 0x110000 := c.valid
  simp only [isHighUnit, isLowUnit, Bool.and_eq_false_iff, decide_eq_false_iff_not]
  omega

theorem characters_unit (c : Char) (broken : Option Break) (more : List Piece) :
    characters broken (.unit c.toNat :: more) = (c :: ·) <$> characters broken more := by
  obtain ⟨high, low⟩ := isUnit_toNat c
  rw [characters.eq_def]
  simp [high, low, Char.ofNat_toNat]

theorem characters_pair {high low : Nat} (opens : isHighUnit high = true)
    (closes : isLowUnit low = true) (broken : Option Break) (more : List Piece) :
    characters broken (.unit high :: .unit low :: more) =
      (paired high low :: ·) <$> characters broken more := by
  rw [characters, if_pos opens, if_pos closes]

/-- What a character is written with becomes pieces that are put together to it. -/
theorem exists_pieces {c : Char} {written : List Char} (h : CharSpelled c written) :
    ∃ pieces : List Piece,
      (∀ rest, lex (written ++ rest) = ((lex rest).1.prepend pieces, (lex rest).2)) ∧
        ∀ broken more,
          characters broken (pieces ++ more) = (c :: ·) <$> characters broken more := by
  cases h with
  | plain visible quote backslash =>
    exact ⟨[.char c], lex_plain visible quote backslash, fun _ _ => rfl⟩
  | letter escape => exact ⟨[.char c], lex_letter escape, fun _ _ => rfl⟩
  | unit number => exact ⟨[.unit c.toNat], lex_unit number, characters_unit c⟩
  | @pair _ _ _ _ _ _ _ _ high low first second opens closes number =>
    refine ⟨[.unit high, .unit low], fun rest => ?_, fun broken more => ?_⟩
    · simp only [List.cons_append, List.nil_append]
      rw [lex_unit first, lex_unit second]
      rfl
    · have isHigh : isHighUnit high = true := by simpa [isHighUnit] using opens
      have isLow : isLowUnit low = true := by simpa [isLowUnit] using closes
      have character : paired high low = c := by rw [paired, ← number, Char.ofNat_toNat]
      rw [← character]
      exact characters_pair isHigh isLow broken more

theorem exists_pieces_of_charsSpelled {cs inside : List Char} (h : CharsSpelled cs inside) :
    ∃ pieces : List Piece, characters none pieces = .ok cs ∧
      ∀ rest, lex (inside ++ '"' :: rest) = (⟨pieces, none⟩, rest) := by
  induction h with
  | nil => exact ⟨[], rfl, fun rest => rfl⟩
  | cons first _ ih =>
    obtain ⟨pieces, lexed, put⟩ := exists_pieces first
    obtain ⟨others, together, closed⟩ := ih
    refine ⟨pieces ++ others, ?_, fun rest => ?_⟩
    · rw [put, together]
      rfl
    · rw [List.append_assoc, lexed, closed]
      rfl

/-- **A quoted text is read up to its closing quote.** -/
theorem exists_quotation {s : String} {inside : List Char} (h : CharsSpelled s.toList inside) :
    ∃ q : Quotation, q.broken = none ∧ q.value = .ok s ∧
      ∀ rest, lex (inside ++ '"' :: rest) = (q, rest) := by
  obtain ⟨pieces, together, closed⟩ := exists_pieces_of_charsSpelled h
  refine ⟨⟨pieces, none⟩, rfl, ?_, closed⟩
  rw [value, together]
  exact congrArg Except.ok String.ofList_toList

end Quotation

/-! ## Lexemes -/

/-- The lexeme is whole, and it is what the token is read as. -/
inductive Lexeme.Means : Lexeme → Token → Prop
  | openArray : Means .openArray .openArray
  | closeArray : Means .closeArray .closeArray
  | openObject : Means .openObject .openObject
  | closeObject : Means .closeObject .closeObject
  | comma : Means .comma .comma
  | colon : Means .colon .colon
  | word (w : Word) : Means (.word w none) (.word w)
  | text {q : Quotation} {s : String} (whole : q.broken = none) (reads : q.value = .ok s) :
      Means (.quotation q) (.text s)

namespace Lexeme

theorem Means.isLast {l : Lexeme} {t : Token} (h : l.Means t) : l.isLast = false := by
  cases h with
  | text whole _ => simp [Lexeme.isLast, whole]
  | _ => rfl

/-- What a token is written with begins with no space, and one lexeme is read from it. -/
theorem exists_lex {t : Token} {written : List Char} (h : t.Spelled written) :
    ∃ c cs, written = c :: cs ∧ isSpace c = false ∧
      ∃ l : Lexeme, l.Means t ∧ ∀ rest, lex c (cs ++ rest) = (l, rest) := by
  cases h with
  | openArray => exact ⟨_, _, rfl, rfl, _, .openArray, fun rest => rfl⟩
  | closeArray => exact ⟨_, _, rfl, rfl, _, .closeArray, fun rest => rfl⟩
  | openObject => exact ⟨_, _, rfl, rfl, _, .openObject, fun rest => rfl⟩
  | closeObject => exact ⟨_, _, rfl, rfl, _, .closeObject, fun rest => rfl⟩
  | comma => exact ⟨_, _, rfl, rfl, _, .comma, fun rest => rfl⟩
  | colon => exact ⟨_, _, rfl, rfl, _, .colon, fun rest => rfl⟩
  | word w => cases w <;> exact ⟨_, _, rfl, rfl, _, .word _, fun rest => rfl⟩
  | text characters =>
    obtain ⟨q, whole, reads, closed⟩ := Quotation.exists_quotation characters
    refine ⟨_, _, rfl, rfl, _, .text whole reads, fun rest => ?_⟩
    rw [List.append_assoc, List.singleton_append]
    exact congrArg (fun read : Quotation × List Char => (quotation read.1, read.2)) (closed rest)

theorem isSpace_of_mem {c : Char} (h : c ∈ [' ', '\n', '\r', '\t']) : isSpace c = true := by
  simpa [isSpace, or_assoc] using h

/-- **The lexemes of a text mean its tokens.** -/
theorem exists_lexAll {ts : List Token} {cs : List Char} (h : Spelled ts cs) :
    ∃ ls, List.Forall₂ Means ls ts ∧ ∀ fuel, cs.length ≤ fuel → lexAll fuel cs = ls := by
  induction h with
  | nil =>
    refine ⟨[], .nil, fun fuel _ => ?_⟩
    cases fuel <;> rfl
  | space blank _ ih =>
    obtain ⟨ls, means, lexed⟩ := ih
    have space := isSpace_of_mem blank
    refine ⟨ls, means, fun fuel enough => ?_⟩
    obtain ⟨fuel, rfl⟩ := Nat.exists_eq_add_one_of_ne_zero (Nat.ne_zero_of_lt enough)
    rw [lexAll, if_pos space]
    exact lexed fuel (Nat.le_of_succ_le_succ enough)
  | @token t ts written cs first _ ih =>
    obtain ⟨ls, means, lexed⟩ := ih
    -- What a token is written with is never empty: this pays for the step.
    obtain ⟨c, inside, rfl, visible, l, meansFirst, lexedFirst⟩ := exists_lex first
    refine ⟨l :: ls, .cons meansFirst means, fun fuel enough => ?_⟩
    have length : inside.length + cs.length + 1 ≤ fuel := by simpa using enough
    obtain ⟨fuel, rfl⟩ := Nat.exists_eq_add_one_of_ne_zero (Nat.ne_zero_of_lt length)
    have others : lexAll fuel cs = ls := lexed fuel (by omega)
    simp [lexAll, visible, lexedFirst, meansFirst.isLast, others]

end Lexeme

/-! ## Outlines -/

mutual

/-- The outline is complete, and it is one of the value. -/
inductive Outlined : Json → Outline → Prop
  | null : Outlined .null (.word .null none)
  | bool (b : Bool) : Outlined (.bool b) (.word (if b then .true else .false) none)
  | string {s : String} {q : Quotation} (reads : q.value = .ok s) :
      Outlined (.string s) (.quotation q)
  | array {values : List Json} {items : List Outline} (all : List.Forall₂ Outlined values items) :
      Outlined (.array values) (.array items .closed)
  | object {values : List (String × Json)} {members : List (Outline × Outline)}
      (all : List.Forall₂ MemberOutlined values members) :
      Outlined (.object values) (.object members .closed)

/-- The same for a member of an object. -/
inductive MemberOutlined : String × Json → Outline × Outline → Prop
  | mk {name : String} {value : Json} {label item : Outline}
      (named : Outline.nameText label = .ok name) (holds : Outlined value item) :
      MemberOutlined (name, value) (label, item)

end

/-- Lexemes that mean the tokens of the value, and more, are outlined up to the others.  Two
units of fuel for every token are enough. -/
def IsOutlined (value : Json) : Prop :=
  ∀ ⦃fuel : Nat⦄ ⦃ls : List Lexeme⦄ ⦃more : List Token⦄, 2 * value.tokens.length ≤ fuel →
    List.Forall₂ Lexeme.Means ls (value.tokens ++ more) →
    ∃ outline rest, Outline.ofLexemes fuel ls = (outline, rest) ∧ Outlined value outline ∧
      List.Forall₂ Lexeme.Means rest more

/-- The first token of a value. -/
theorem tokens_eq_cons (value : Json) :
    ∃ t ts, value.tokens = t :: ts ∧ t ≠ .closeArray := by
  cases value <;> exact ⟨_, _, rfl, nofun⟩

theorem tokens_length_pos (value : Json) : 0 < value.tokens.length := by
  obtain ⟨t, ts, tokens, -⟩ := value.tokens_eq_cons
  rw [tokens]
  exact Nat.succ_pos _

namespace Outline

variable {fuel : Nat} {ls : List Lexeme} {more : List Token}

/-- The items of an array behind one of them. -/
theorem exists_nextItem {values : List Json} (h : ∀ value ∈ values, IsOutlined value)
    (enough : 2 * ((commaLed (values.map tokens)).length + 1) ≤ fuel)
    (means : List.Forall₂ Lexeme.Means ls (commaLed (values.map tokens) ++ .closeArray :: more)) :
    ∃ items rest, nextItem fuel ls = (items, .closed, rest) ∧
      List.Forall₂ Outlined values items ∧ List.Forall₂ Lexeme.Means rest more := by
  induction values generalizing fuel ls with
  | nil =>
    obtain ⟨fuel, rfl⟩ := Nat.exists_eq_add_one_of_ne_zero (Nat.ne_zero_of_lt enough)
    obtain _ | ⟨_ | _, means⟩ := means
    exact ⟨[], _, rfl, .nil, means⟩
  | cons value values ih =>
    rw [List.forall_mem_cons] at h
    simp only [List.map_cons, commaLed_cons, List.cons_append, List.append_assoc,
      List.length_cons, List.length_append] at enough means
    obtain ⟨fuel, rfl⟩ := Nat.exists_eq_add_one_of_ne_zero (Nat.ne_zero_of_lt enough)
    obtain _ | ⟨_ | _, means⟩ := means
    have forItem : 2 * value.tokens.length ≤ fuel := by omega
    have forOthers : 2 * ((commaLed (values.map tokens)).length + 1) ≤ fuel := by omega
    obtain ⟨item, rest, first, holds, means⟩ := h.1 forItem means
    obtain ⟨items, rest', others, all, means⟩ := ih h.2 forOthers means
    refine ⟨item :: items, rest', ?_, .cons holds all, means⟩
    simp only [nextItem, first, others]

/-- The items of an array. -/
theorem exists_firstItem {values : List Json} (h : ∀ value ∈ values, IsOutlined value)
    (enough : 2 * ((commaList (values.map tokens)).length + 1) ≤ fuel)
    (means : List.Forall₂ Lexeme.Means ls (commaList (values.map tokens) ++ .closeArray :: more)) :
    ∃ items rest, firstItem fuel ls = (items, .closed, rest) ∧
      List.Forall₂ Outlined values items ∧ List.Forall₂ Lexeme.Means rest more := by
  obtain ⟨fuel, rfl⟩ := Nat.exists_eq_add_one_of_ne_zero (Nat.ne_zero_of_lt enough)
  cases values with
  | nil =>
    obtain _ | ⟨_ | _, means⟩ := means
    exact ⟨[], _, rfl, .nil, means⟩
  | cons value values =>
    rw [List.forall_mem_cons] at h
    simp only [List.map_cons, commaList, List.append_assoc, List.length_append] at enough means
    -- The bracket has been paid for, and the first item has a token at least.
    have positive := value.tokens_length_pos
    have forItem : 2 * value.tokens.length ≤ fuel := by omega
    have forOthers : 2 * ((commaLed (values.map tokens)).length + 1) ≤ fuel := by omega
    obtain ⟨item, rest, first, holds, left⟩ := h.1 forItem means
    obtain ⟨items, rest', others, all, left⟩ := exists_nextItem h.2 forOthers left
    refine ⟨item :: items, rest', ?_, .cons holds all, left⟩
    -- An array with an item does not begin like an empty one.
    obtain ⟨t, ts, tokens, notClosed⟩ := value.tokens_eq_cons
    rw [tokens] at means
    obtain _ | ⟨head, _⟩ := means
    rw [firstItem]
    · simp only [first, others]
    · exact nofun
    · rintro rest ⟨rfl, rfl⟩
      cases head
      exact notClosed rfl

/-- A member of an object. -/
theorem exists_member {m : String × Json} (h : IsOutlined m.2)
    (enough : 2 * (tokensOfMember m).length ≤ fuel)
    (means : List.Forall₂ Lexeme.Means ls (tokensOfMember m ++ more)) :
    ∃ q left item rest, ls = .quotation q :: left ∧ ofLexemes fuel ls = (.quotation q, left) ∧
      memberValue fuel left = (item, rest) ∧ MemberOutlined m (.quotation q, item) ∧
      List.Forall₂ Lexeme.Means rest more := by
  simp only [tokensOfMember, List.length_cons] at enough
  obtain ⟨fuel, rfl⟩ := Nat.exists_eq_add_one_of_ne_zero (Nat.ne_zero_of_lt enough)
  cases means with
  | cons label means =>
    obtain _ | ⟨_ | _, means⟩ := means
    cases label with
    | text _ named =>
      have forValue : 2 * m.2.tokens.length ≤ fuel := by omega
      obtain ⟨item, rest, outlined, holds, means⟩ := h forValue means
      exact ⟨_, _, item, rest, rfl, rfl, outlined, .mk named holds, means⟩

/-- The members of an object behind one of them. -/
theorem exists_nextMember {values : List (String × Json)} (h : ∀ m ∈ values, IsOutlined m.2)
    (enough : 2 * ((commaLed (values.map tokensOfMember)).length + 1) ≤ fuel)
    (means : List.Forall₂ Lexeme.Means ls
      (commaLed (values.map tokensOfMember) ++ .closeObject :: more)) :
    ∃ members rest, nextMember fuel ls = (members, .closed, rest) ∧
      List.Forall₂ MemberOutlined values members ∧ List.Forall₂ Lexeme.Means rest more := by
  induction values generalizing fuel ls with
  | nil =>
    obtain ⟨fuel, rfl⟩ := Nat.exists_eq_add_one_of_ne_zero (Nat.ne_zero_of_lt enough)
    obtain _ | ⟨_ | _, means⟩ := means
    exact ⟨[], _, rfl, .nil, means⟩
  | cons m values ih =>
    rw [List.forall_mem_cons] at h
    simp only [List.map_cons, commaLed_cons, List.cons_append, List.append_assoc,
      List.length_cons, List.length_append] at enough means
    obtain ⟨fuel, rfl⟩ := Nat.exists_eq_add_one_of_ne_zero (Nat.ne_zero_of_lt enough)
    obtain _ | ⟨_ | _, means⟩ := means
    have forMember : 2 * (tokensOfMember m).length ≤ fuel := by omega
    have forOthers : 2 * ((commaLed (values.map tokensOfMember)).length + 1) ≤ fuel := by omega
    obtain ⟨q, left, item, rest, -, label, first, member, means⟩ :=
      exists_member h.1 forMember means
    obtain ⟨members, rest', others, all, means⟩ := ih h.2 forOthers means
    refine ⟨(.quotation q, item) :: members, rest', ?_, .cons member all, means⟩
    simp only [nextMember, label, first, others]

/-- The members of an object. -/
theorem exists_firstMember {values : List (String × Json)} (h : ∀ m ∈ values, IsOutlined m.2)
    (enough : 2 * ((commaList (values.map tokensOfMember)).length + 1) ≤ fuel)
    (means : List.Forall₂ Lexeme.Means ls
      (commaList (values.map tokensOfMember) ++ .closeObject :: more)) :
    ∃ members rest, firstMember fuel ls = (members, .closed, rest) ∧
      List.Forall₂ MemberOutlined values members ∧ List.Forall₂ Lexeme.Means rest more := by
  obtain ⟨fuel, rfl⟩ := Nat.exists_eq_add_one_of_ne_zero (Nat.ne_zero_of_lt enough)
  cases values with
  | nil =>
    obtain _ | ⟨_ | _, means⟩ := means
    exact ⟨[], _, rfl, .nil, means⟩
  | cons m values =>
    rw [List.forall_mem_cons] at h
    simp only [List.map_cons, commaList, List.append_assoc, List.length_append] at enough means
    have positive : 0 < (tokensOfMember m).length := Nat.succ_pos _
    have forMember : 2 * (tokensOfMember m).length ≤ fuel := by omega
    have forOthers : 2 * ((commaLed (values.map tokensOfMember)).length + 1) ≤ fuel := by omega
    obtain ⟨q, left, item, rest, rfl, label, first, member, means⟩ :=
      exists_member h.1 forMember means
    obtain ⟨members, rest', others, all, means⟩ := exists_nextMember h.2 forOthers means
    refine ⟨(.quotation q, item) :: members, rest', ?_, .cons member all, means⟩
    simp only [firstMember, label, first, others]

end Outline

/-- Induction over a value, with all items of an array and all members of an object at once. -/
@[elab_as_elim]
theorem induction {P : Json → Prop} (null : P null) (bool : ∀ b, P (bool b))
    (number : ∀ n, P (number n)) (string : ∀ text, P (string text))
    (array : ∀ items, (∀ item ∈ items, P item) → P (array items))
    (object : ∀ members : List (String × Json), (∀ m ∈ members, P m.2) → P (object members))
    (value : Json) : P value := by
  refine @Json.rec P (fun items => ∀ item ∈ items, P item) (fun members => ∀ m ∈ members, P m.2)
    (fun m => P m.2) null bool number string array object ?_ ?_ ?_ ?_ ?_ value
  · exact fun item h => absurd h List.not_mem_nil
  · exact fun item items first others => List.forall_mem_cons.mpr ⟨first, others⟩
  · exact fun m h => absurd h List.not_mem_nil
  · exact fun m members first others => List.forall_mem_cons.mpr ⟨first, others⟩
  · exact fun name value h => h

/-- A value of one token. -/
theorem isOutlined_of_token {value : Json} {t : Token} (single : value.tokens = [t])
    (reads : ∀ fuel l rest, l.Means t →
      ∃ outline, Outline.ofLexemes (fuel + 1) (l :: rest) = (outline, rest) ∧
        Outlined value outline) : IsOutlined value := by
  intro fuel ls more enough means
  rw [single] at enough means
  obtain ⟨fuel, rfl⟩ := Nat.exists_eq_add_one_of_ne_zero (Nat.ne_zero_of_lt enough)
  cases means with
  | cons head means =>
    obtain ⟨outline, outlined, holds⟩ := reads fuel _ _ head
    exact ⟨outline, _, outlined, holds, means⟩

/-- **Every value is outlined.** -/
theorem isOutlined (value : Json) : IsOutlined value := by
  induction value using Json.induction with
  | null =>
    refine isOutlined_of_token rfl fun fuel l rest means => ?_
    cases means
    exact ⟨_, rfl, .null⟩
  | bool b =>
    refine isOutlined_of_token rfl fun fuel l rest means => ?_
    cases means
    exact ⟨_, rfl, .bool b⟩
  | number n =>
    refine isOutlined_of_token rfl fun fuel l rest means => ?_
    cases means
  | string text =>
    refine isOutlined_of_token rfl fun fuel l rest means => ?_
    cases means with
    | text _ reads => exact ⟨_, rfl, .string reads⟩
  | array items ih =>
    intro fuel ls more enough means
    simp only [tokens, itemTokens_eq_map, List.length_cons, List.length_append,
      List.cons_append, List.append_assoc, List.nil_append] at enough means
    obtain ⟨fuel, rfl⟩ := Nat.exists_eq_add_one_of_ne_zero (Nat.ne_zero_of_lt enough)
    cases means with
    | cons head means =>
      cases head
      have forItems : 2 * ((commaList (items.map tokens)).length + 1) ≤ fuel := by omega
      obtain ⟨outlines, rest, outlined, all, means⟩ := Outline.exists_firstItem ih forItems means
      refine ⟨.array outlines .closed, rest, ?_, .array all, means⟩
      simp only [Outline.ofLexemes, outlined]
  | object members ih =>
    intro fuel ls more enough means
    simp only [tokens, memberTokens_eq_map, List.length_cons, List.length_append,
      List.cons_append, List.append_assoc, List.nil_append] at enough means
    obtain ⟨fuel, rfl⟩ := Nat.exists_eq_add_one_of_ne_zero (Nat.ne_zero_of_lt enough)
    cases means with
    | cons head means =>
      cases head
      have forMembers : 2 * ((commaList (members.map tokensOfMember)).length + 1) ≤ fuel := by omega
      obtain ⟨outlines, rest, outlined, all, means⟩ :=
        Outline.exists_firstMember ih forMembers means
      refine ⟨.object outlines .closed, rest, ?_, .object all, means⟩
      simp only [Outline.ofLexemes, outlined]

/-- **A text that writes a value is outlined as the value, and nothing is left over.** -/
theorem exists_outlined_of_spelledBy {value : Json} {text : String} (h : value.SpelledBy text) :
    ∃ outline, Outline.ofText text = (outline, false) ∧ Outlined value outline := by
  obtain ⟨ls, means, lexed⟩ := Lexeme.exists_lexAll h
  have lexemes : Lexeme.ofText text = ls := lexed _ (Nat.le_refl _)
  have enough : 2 * value.tokens.length ≤ 2 * ls.length + 1 := by
    rw [means.length_eq]
    exact Nat.le_succ _
  rw [← List.append_nil value.tokens] at means
  obtain ⟨outline, rest, outlined, holds, left⟩ := value.isOutlined enough means
  cases left
  refine ⟨outline, ?_, holds⟩
  simp only [Outline.ofText, lexemes, outlined]
  rfl

end Gatehouse.Json
