/- What literals stand for, and what is wrong with a quote that no literal comes after. -/
import Frontend.Proofs.Lexer.Escape
import Frontend.Proofs.Lexer.Step

namespace Frontend.Lexer

open Text (Denotes)

/-- What one character of a literal is written with, and the character that it stands for. -/
structure Item where
  text : List Char
  value : Char

/-- Between such quotes a character stands for itself, or an escape for what it stands for. -/
inductive Item.Within (quote : Char) : Item → Prop where
  | plain {c} (hquote : c ≠ quote) (hslash : c ≠ '\\') : Within quote ⟨[c], c⟩
  | escape {text value} (h : Escape text value) : Within quote ⟨'\\' :: text, value⟩

/-- The text that the items are written with, one after another. -/
def written (items : List Item) : List Char := items.flatMap (·.text)

/-- The text, from after an opening quote, is a string of these characters before `rest`. -/
def StringLiteral (items : List Item) (rest text : List Char) : Prop :=
  (∀ i ∈ items, i.Within '"') ∧ text = written items ++ '"' :: rest

/-- The text, from after an opening quote, is a literal of this character before `rest`. -/
def CharacterLiteral (item : Item) (rest text : List Char) : Prop :=
  item.Within '\'' ∧ text = item.text ++ '\'' :: rest

/-- What spoils a literal where its next character should stand. -/
inductive Spoils : LexErrorKind → List Char → Prop where
  | textEnds : Spoils .unexpectedEndOfFile []
  | escapeEnds {begun} (h : BegunEscape begun) : Spoils .unexpectedEndOfFile ('\\' :: begun)
  | malformed {c bad rest} (h : MalformedEscape (c :: bad)) :
      Spoils (.invalidEscape c) ('\\' :: (c :: bad ++ rest))

/-- What spoils a string literal after some characters that are right, read from after its opening
quote. -/
def SpoilsString (kind : LexErrorKind) (text : List Char) : Prop :=
  ∃ items tail, (∀ i ∈ items, i.Within '"') ∧ text = written items ++ tail ∧ Spoils kind tail

/-- What spoils a character literal, read from after its opening quote. -/
inductive SpoilsCharacter : LexErrorKind → List Char → Prop where
  | item {kind text} (h : Spoils kind text) : SpoilsCharacter kind text
  | empty {rest} : SpoilsCharacter .invalidCharacterLiteral ('\'' :: rest)
  | textEnds {item : Item} (h : item.Within '\'') :
      SpoilsCharacter .unexpectedEndOfFile item.text
  | tooLong {item : Item} {c rest} (h : item.Within '\'') (hc : c ≠ '\'') :
      SpoilsCharacter .invalidCharacterLiteral (item.text ++ c :: rest)

section
variable {text : List Char} {quote : Char}

theorem Item.Within.charText {item : Item} (h : item.Within quote) :
    CharText quote item.text item.value := by
  cases h with
  | plain hquote hslash => exact .plain hquote hslash
  | escape h => exact .escape h.escapeText

/-- Up to the closing quote there is a next character of the literal, unless something spoils it. -/
theorem item_cases (quote : Char) (text : List Char) :
    (∃ rest, text = quote :: rest) ∨ (∃ item : Item, ∃ rest, item.Within quote ∧
      text = item.text ++ rest) ∨ ∃ kind, Spoils kind text := by
  cases text with
  | nil => exact .inr (.inr ⟨_, .textEnds⟩)
  | cons c cs =>
      by_cases hquote : c = quote
      · exact .inl ⟨cs, congrArg (· :: cs) hquote⟩
      by_cases hslash : c = '\\'
      · subst hslash
        rcases escapeCases cs with ⟨used, value, rest, rfl, h⟩ | h | ⟨d, bad, rest, rfl, h⟩
        · exact .inr (.inl ⟨_, rest, .escape h, rfl⟩)
        · exact .inr (.inr ⟨_, .escapeEnds h⟩)
        · exact .inr (.inr ⟨_, .malformed h⟩)
      · exact .inr (.inl ⟨_, cs, .plain hquote hslash, rfl⟩)

theorem Item.Within.ne_nil {item : Item} (h : item.Within quote) : item.text ≠ [] := by
  cases h <;> exact List.cons_ne_nil _ _

/-- What one character of a literal is written with never starts what another one is written with.
-/
theorem Item.Within.append_inj {item item' : Item} {rest rest' : List Char}
    (h : item.Within quote) (h' : item'.Within quote)
    (heq : item.text ++ rest = item'.text ++ rest') : item = item' ∧ rest = rest' := by
  cases h with
  | plain hquote hslash =>
      cases h' with
      | plain hquote' hslash' =>
          obtain ⟨rfl, rfl⟩ := List.cons.inj heq
          exact ⟨rfl, rfl⟩
      | escape h' => exact absurd (List.cons.inj heq).1 hslash
  | escape h =>
      cases h' with
      | plain hquote' hslash' => exact absurd (List.cons.inj heq).1.symm hslash'
      | escape h' =>
          have hread := congrArg readEscape (List.cons.inj heq).2
          rw [List.append_eq, List.append_eq, readEscape_append h.escapeText,
            readEscape_append h'.escapeText] at hread
          obtain ⟨hvalue, rfl, rfl⟩ := Reading.mk.inj hread
          obtain rfl := Except.ok.inj hvalue
          exact ⟨rfl, rfl⟩

theorem Item.Within.append_ne {item : Item} {rest rest' : List Char} (h : item.Within quote)
    (hquote : quote ≠ '\\') : item.text ++ rest ≠ quote :: rest' := by
  intro heq
  cases h with
  | plain hplain hslash => exact hplain (List.cons.inj heq).1
  | escape h => exact hquote (List.cons.inj heq).1.symm

theorem written_cons_append (i : Item) (is : List Item) (rest : List Char) :
    written (i :: is) ++ rest = i.text ++ (written is ++ rest) := by
  rw [written, List.flatMap_cons, List.append_assoc]
  rfl

/-- A string is divided into its characters in one way only. -/
theorem written_append_inj {items items' : List Item} {rest rest' : List Char}
    (h : ∀ i ∈ items, i.Within '"') (h' : ∀ i ∈ items', i.Within '"')
    (heq : written items ++ '"' :: rest = written items' ++ '"' :: rest') :
    items = items' ∧ rest = rest' := by
  induction items generalizing items' with
  | nil =>
      cases items' with
      | nil => exact ⟨rfl, (List.cons.inj heq).2⟩
      | cons i is =>
          rw [written_cons_append] at heq
          exact absurd heq.symm ((h' i List.mem_cons_self).append_ne (by decide))
  | cons i is ih =>
      rw [written_cons_append] at heq
      cases items' with
      | nil => exact absurd heq ((h i List.mem_cons_self).append_ne (by decide))
      | cons j js =>
          rw [written_cons_append] at heq
          obtain ⟨rfl, hrest⟩ :=
            (h i List.mem_cons_self).append_inj (h' j List.mem_cons_self) heq
          obtain ⟨rfl, rfl⟩ := ih (fun k hk => h k (List.mem_cons_of_mem i hk))
            (fun k hk => h' k (List.mem_cons_of_mem i hk)) hrest
          exact ⟨rfl, rfl⟩

theorem stringText_written {items : List Item} (h : ∀ i ∈ items, i.Within '"') :
    StringText (written items) (items.map (·.value)) := by
  induction items with
  | nil => exact .nil
  | cons i is ih =>
      exact .cons (h i List.mem_cons_self).charText (ih fun j hj => h j (List.mem_cons_of_mem i hj))

theorem readString_of_spoils {kind : LexErrorKind} (h : SpoilsString kind text) :
    (readString text).outcome = .error kind := by
  obtain ⟨items, tail, hitems, rfl, hspoils⟩ := h
  induction items with
  | nil =>
      change (readString tail).outcome = .error kind
      cases hspoils with
      | textEnds => rw [readString]; rfl
      | escapeEnds h => rw [readString, readEscape_of_begun h]; rfl
      | malformed h => rw [readString, readEscape_of_malformed h]; rfl
  | cons i is ih =>
      have hrest := ih fun j hj => hitems j (List.mem_cons_of_mem i hj)
      rw [written_cons_append, readString_charText (hitems i List.mem_cons_self).charText]
      simp only [Reading.after, Reading.map, hrest]
      rfl

/-- After an opening quote the text goes on up to the closing one, unless something spoils the
literal. -/
theorem string_cases (text : List Char) :
    (∃ items rest, StringLiteral items rest text) ∨ ∃ kind, SpoilsString kind text := by
  rcases item_cases '"' text with ⟨rest, rfl⟩ | ⟨item, rest, hitem, htext⟩ | ⟨kind, hspoils⟩
  · exact .inl ⟨[], rest, List.forall_mem_nil _, rfl⟩
  · have hlength : rest.length < text.length := by
      have hpos := List.length_pos_iff.mpr hitem.ne_nil
      rw [htext, List.length_append]
      omega
    rcases string_cases rest with
      ⟨items, rest', hitems, hrest⟩ | ⟨kind, items, tail, hitems, hrest, h⟩
    · refine .inl ⟨item :: items, rest', List.forall_mem_cons.mpr ⟨hitem, hitems⟩, ?_⟩
      rw [written_cons_append, ← hrest, htext]
    · refine .inr ⟨kind, item :: items, tail, List.forall_mem_cons.mpr ⟨hitem, hitems⟩, ?_, h⟩
      rw [written_cons_append, ← hrest, htext]
  · exact .inr ⟨kind, [], text, List.forall_mem_nil _, rfl, hspoils⟩
termination_by text.length

theorem readCharacter_of_spoils {kind : LexErrorKind} (h : SpoilsCharacter kind text) :
    (readCharacter text).outcome = .error kind := by
  cases h with
  | item h =>
      cases h with
      | textEnds => rfl
      | escapeEnds h => rw [readCharacter, readEscape_of_begun h]; rfl
      | malformed h => rw [readCharacter, readEscape_of_malformed h]; rfl
  | empty => rfl
  | textEnds h =>
      have hread := readCharacter_charText h.charText []
      rw [List.append_nil] at hread
      rw [hread]
      rfl
  | @tooLong item c rest h hc =>
      rw [readCharacter_charText h.charText, closeCharacter.eq_3 _ _ _ hc]
      rfl

/-- After an opening quote there is one character and the closing quote, unless something spoils
the literal. -/
theorem character_cases (text : List Char) :
    (∃ item rest, CharacterLiteral item rest text) ∨ ∃ kind, SpoilsCharacter kind text := by
  rcases item_cases '\'' text with ⟨rest, rfl⟩ | ⟨item, rest, hitem, rfl⟩ | ⟨kind, h⟩
  · exact .inr ⟨_, .empty⟩
  · cases rest with
    | nil =>
        rw [List.append_nil]
        exact .inr ⟨_, .textEnds hitem⟩
    | cons c cs =>
        by_cases hc : c = '\''
        · subst hc
          exact .inl ⟨item, cs, hitem, rfl⟩
        · exact .inr ⟨_, .tooLong hitem hc⟩
  · exact .inr ⟨kind, .item h⟩

end

/-- A double quote and the text after it are read as the string that stands there, and else as the
error that comes first from the left. -/
structure DecodesString (l : Lexer) (text : List Char) : Prop where
  token : ∀ t, l.next.found = .ok t ↔ ∃ items rest, StringLiteral items rest text ∧
    t = .string (String.ofList (items.map (·.value)))
  unique : ∀ items rest items' rest', StringLiteral items rest text →
    StringLiteral items' rest' text → items = items' ∧ rest = rest'
  behind : ∀ items rest, StringLiteral items rest text →
    l.next.next = l.atToken.moveOver ('"' :: (written items ++ ['"'])) rest
  error : ∀ kind, l.next.found = .error kind ↔ SpoilsString kind text

/-- A single quote and the text after it are read as the character that stands there, kept modulo
256, and else as the error that comes first from the left. -/
structure DecodesCharacter (l : Lexer) (text : List Char) : Prop where
  token : ∀ t, l.next.found = .ok t ↔ ∃ item rest v, CharacterLiteral item rest text ∧
    t = .char v ∧ v.toNat = item.value.toNat % 256
  unique : ∀ item rest item' rest', CharacterLiteral item rest text →
    CharacterLiteral item' rest' text → item = item' ∧ rest = rest'
  behind : ∀ item rest, CharacterLiteral item rest text →
    l.next.next = l.atToken.moveOver ('\'' :: (item.text ++ ['\''])) rest
  error : ∀ kind, l.next.found = .error kind ↔ SpoilsCharacter kind text

section
variable {l : Lexer} {text rest : List Char} {items : List Item} {item : Item}

theorem readToken_of_stringLiteral (h : StringLiteral items rest text) :
    readToken ('"' :: text) = .found (.string (String.ofList (items.map (·.value))))
      ('"' :: (written items ++ ['"'])) rest := by
  obtain ⟨hitems, rfl⟩ := h
  rw [readToken, readString_append (stringText_written hitems)]
  rfl

theorem readToken_of_characterLiteral (h : CharacterLiteral item rest text) :
    readToken ('\'' :: text) = .found (.char (UInt8.ofNat item.value.toNat))
      ('\'' :: (item.text ++ ['\''])) rest := by
  obtain ⟨hitem, rfl⟩ := h
  rw [readToken, readCharacter_append hitem.charText]
  rfl

/-- When one of two things holds and each of them tells what is found, what is found tells which of
them holds. -/
theorem found_iff_of_cases {good : Token → Prop} {bad : LexErrorKind → Prop}
    (hok : ∀ t, good t → l.next.found = .ok t)
    (herror : ∀ kind, bad kind → l.next.found = .error kind)
    (hcases : (∃ t, good t) ∨ ∃ kind, bad kind) :
    (∀ t, l.next.found = .ok t ↔ good t) ∧ ∀ kind, l.next.found = .error kind ↔ bad kind := by
  refine ⟨fun t => ⟨fun ht => ?_, hok t⟩, fun kind => ⟨fun hkind => ?_, herror kind⟩⟩
  · rcases hcases with ⟨u, hu⟩ | ⟨kind, hbad⟩
    · rwa [Except.ok.inj (ht.symm.trans (hok u hu))]
    · cases ht.symm.trans (herror kind hbad)
  · rcases hcases with ⟨t, hgood⟩ | ⟨kind', hbad⟩
    · cases hkind.symm.trans (hok t hgood)
    · rwa [Except.error.inj (hkind.symm.trans (herror kind' hbad))]

theorem decodesString (hl : l.atToken.rest = '"' :: text) : DecodesString l text := by
  have hfound := found_of_head hl (by decide)
  have hok : ∀ t, (∃ items rest, StringLiteral items rest text ∧
      t = .string (String.ofList (items.map (·.value)))) → l.next.found = .ok t := by
    rintro t ⟨items, rest, h, rfl⟩
    rw [hfound, readToken_of_stringLiteral h]
    rfl
  have herror : ∀ kind, SpoilsString kind text → l.next.found = .error kind := by
    intro kind h
    rw [hfound, readToken]
    simp only [Reading.after, Reading.map, readString_of_spoils h]
    rfl
  have hiff := found_iff_of_cases hok herror <| by
    rcases string_cases text with ⟨items, rest, h⟩ | hspoilt
    · exact .inl ⟨_, items, rest, h, rfl⟩
    · exact .inr hspoilt
  refine ⟨hiff.1, ?_, ?_, hiff.2⟩
  · rintro items rest items' rest' ⟨h, rfl⟩ ⟨h', heq⟩
    exact written_append_inj h h' heq
  · intro items rest h
    exact next_next_of_head hl (by decide) (readToken_of_stringLiteral h) rfl

theorem decodesCharacter (hl : l.atToken.rest = '\'' :: text) : DecodesCharacter l text := by
  have hfound := found_of_head hl (by decide)
  have hok : ∀ t, (∃ item rest v, CharacterLiteral item rest text ∧ t = .char v ∧
      v.toNat = item.value.toNat % 256) → l.next.found = .ok t := by
    rintro t ⟨item, rest, v, h, rfl, hv⟩
    have hvalue : v = UInt8.ofNat item.value.toNat :=
      UInt8.toNat_inj.mp (hv.trans UInt8.toNat_ofNat'.symm)
    rw [hfound, readToken_of_characterLiteral h, hvalue]
    rfl
  have herror : ∀ kind, SpoilsCharacter kind text → l.next.found = .error kind := by
    intro kind h
    rw [hfound, readToken]
    simp only [Reading.after, Reading.map, readCharacter_of_spoils h]
    rfl
  have hiff := found_iff_of_cases hok herror <| by
    rcases character_cases text with ⟨item, rest, h⟩ | hspoilt
    · exact .inl ⟨_, item, rest, _, h, rfl, UInt8.toNat_ofNat'⟩
    · exact .inr hspoilt
  refine ⟨hiff.1, ?_, ?_, hiff.2⟩
  · rintro item rest item' rest' ⟨h, rfl⟩ ⟨h', heq⟩
    obtain ⟨rfl, hrest⟩ := h.append_inj h' heq
    exact ⟨rfl, (List.cons.inj hrest).2⟩
  · intro item rest h
    exact next_next_of_head hl (by decide) (readToken_of_characterLiteral h) rfl

end

/-- Wherever a lexer comes to an opening quote, it decodes the literal after it or says what is
wrong with it. -/
theorem literals_decode (l : Lexer) (text : List Char) :
    (l.atToken.rest = '"' :: text → DecodesString l text) ∧
      (l.atToken.rest = '\'' :: text → DecodesCharacter l text) :=
  ⟨decodesString, decodesCharacter⟩

/-- A string of a code with leading zeros, a quote of the other kind and an escaped sign; and after
it a character literal that is too long. -/
theorem literals_decode_mixed :
    let l := ofChars "/**/ \"\\x\x7b0041\x7d'\\n\"'ab'".toList
    l.atToken.rest = '"' :: "\\x\x7b0041\x7d'\\n\"'ab'".toList ∧
      l.next.found = .ok (.string "A'\n") ∧ l.next.next.atToken.rest = '\'' :: "ab'".toList ∧
      l.next.next.next.found = .error .invalidCharacterLiteral := by
  intro l
  have hstring : l.atToken.rest = '"' :: "\\x\x7b0041\x7d'\\n\"'ab'".toList := by decide +kernel
  have hcharacter : l.next.next.atToken.rest = '\'' :: "ab'".toList := by decide +kernel
  have hcode : Denotes 16 ['0', '0', '4', '1'] 65 :=
    ⟨by decide, [0, 0, 4, 1], .cons ⟨by decide, .inl rfl⟩ (.cons ⟨by decide, .inl rfl⟩
      (.cons ⟨by decide, .inl rfl⟩ (.cons ⟨by decide, .inl rfl⟩ .nil))), by decide⟩
  have hitems : ∀ i ∈ [⟨"\\x\x7b0041\x7d".toList, 'A'⟩, ⟨['\''], '\''⟩, ⟨['\\', 'n'], '\n'⟩],
      Item.Within '"' i := by
    simp only [List.forall_mem_cons]
    exact ⟨.escape (.code hcode (by decide)), .plain (by decide) (by decide),
      .escape (.sign (by decide)), List.forall_mem_nil _⟩
  refine ⟨hstring, ?_, hcharacter, ?_⟩
  · exact (((literals_decode l _).1 hstring).token _).mpr ⟨_, _, ⟨hitems, rfl⟩, rfl⟩
  · refine (((literals_decode l.next.next _).2 hcharacter).error _).mpr ?_
    exact @SpoilsCharacter.tooLong ⟨['a'], 'a'⟩ 'b' ['\''] (.plain (by decide) (by decide))
      (by decide)

end Frontend.Lexer
