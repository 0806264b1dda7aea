/- How the text of a type starts, and what may follow it. -/
import Frontend.Proofs.Ty.Word

namespace Frontend.Ty

open Text (isIdentifierChar ListSigns)

/-- What may follow a type: nothing, or a sign that closes what the type stands in. -/
def Closes (rest : List Char) : Prop := ∀ c ∈ rest.head?, c ∈ [',', ')', ';', ']']

/-- What may follow a member of a composition: one more member too. -/
def Ends (rest : List Char) : Prop := Closes rest ∨ ∃ more, rest = ' ' :: '&' :: ' ' :: more

/-- What may follow the arguments of a function or the elements of a tuple. -/
def ClosesList (rest : List Char) : Prop :=
  (∃ more, rest = ')' :: more) ∨ ∃ more, rest = ',' :: ')' :: more

theorem closes_of_closesList {rest : List Char} (h : ClosesList rest) : Closes rest := by
  rcases h with ⟨more, rfl⟩ | ⟨more, rfl⟩ <;> simp [Closes]

theorem memberSigns : ListSigns " & ".toList Ends Closes where
  goesOn rest := .inr ⟨rest, rfl⟩
  closes := .inl
  apart rest h := by simp [Closes] at h

theorem commaSigns : ListSigns ", ".toList Closes ClosesList where
  goesOn rest := by simp [Closes]
  closes := closes_of_closesList
  apart rest h := by simp [ClosesList] at h

theorem not_isIdentifierChar_of_mem {signs : List Char}
    (hsigns : signs.any isIdentifierChar = false) {c : Char} (h : c ∈ signs) :
    isIdentifierChar c = false :=
  Bool.eq_false_iff.mpr (List.any_eq_false.mp hsigns c h)

theorem not_isIdentifierChar_of_ends {rest : List Char} (h : Ends rest) :
    ∀ c ∈ rest.head?, isIdentifierChar c = false := by
  intro c hc
  rcases h with h | ⟨more, rfl⟩
  · exact not_isIdentifierChar_of_mem (by decide) (h c hc)
  · cases hc
    decide

/-- An arrow belongs to the function whose arguments it follows. -/
theorem not_ends_arrow (rest : List Char) : ¬ Ends (' ' :: '-' :: rest) := by
  simp [Ends, Closes]

/-- The sign that the text of a type starts with, where it is no word. -/
def sign? : Ty → Option Char
  | var _ => some '\''
  | named name => if isBare name then none else some '`'
  | error => some '<'
  | integerLiteral => some '<'
  | floatingLiteral => some '<'
  | stringLiteral => some '<'
  | nilLiteral => some '<'
  | function .. => some '('
  | tuple _ => some '('
  | pointer _ => some '*'
  | array .. => some '['
  | _ => none

theorem eq_tick_of_sign_named {name : String} {c : Char} (h : (named name).sign? = some c) :
    isBare name = false ∧ c = '`' := by
  cases hbare : isBare name with
  | true => simp [sign?, hbare] at h
  | false =>
      simp only [sign?, hbare, Bool.false_eq_true, if_false, Option.some.injEq] at h
      exact ⟨rfl, h.symm⟩

theorem eq_named_of_sign {t : Ty} (h : t.sign? = some '`') : ∃ name, t = named name := by
  cases t with
  | named name => exact ⟨name, rfl⟩
  | _ => cases h

theorem eq_var_of_sign {t : Ty} (h : t.sign? = some '\'') : ∃ name, t = var name := by
  cases t with
  | var name => exact ⟨name, rfl⟩
  | named name => exact absurd (eq_tick_of_sign_named h).2 (by decide)
  | _ => cases h

theorem eq_pointer_of_sign {t : Ty} (h : t.sign? = some '*') : ∃ pointee, t = pointer pointee := by
  cases t with
  | pointer pointee => exact ⟨pointee, rfl⟩
  | named name => exact absurd (eq_tick_of_sign_named h).2 (by decide)
  | _ => cases h

theorem eq_array_of_sign {t : Ty} (h : t.sign? = some '[') :
    ∃ element length, t = array element length := by
  cases t with
  | array element length => exact ⟨element, length, rfl⟩
  | named name => exact absurd (eq_tick_of_sign_named h).2 (by decide)
  | _ => cases h

theorem eq_function_or_tuple_of_sign {t : Ty} (h : t.sign? = some '(') :
    (∃ args result variadic, t = function args result variadic) ∨
      ∃ elements, t = tuple elements := by
  cases t with
  | function args result variadic => exact .inl ⟨args, result, variadic, rfl⟩
  | tuple elements => exact .inr ⟨elements, rfl⟩
  | named name => exact absurd (eq_tick_of_sign_named h).2 (by decide)
  | _ => cases h

/-- The types that no source can name. -/
def placeholders : List Ty :=
  [error, integerLiteral, floatingLiteral, stringLiteral, nilLiteral]

theorem mem_placeholders_of_sign {t : Ty} (h : t.sign? = some '<') : t ∈ placeholders := by
  cases t with
  | named name => exact absurd (eq_tick_of_sign_named h).2 (by decide)
  | _ => first | cases h; done | simp [placeholders]

theorem describe_eq_sign_cons {t : Ty} {c : Char} (h : t.sign? = some c) :
    ∃ cs, t.describe false = c :: cs := by
  cases t with
  | named name =>
      obtain ⟨hbare, rfl⟩ := eq_tick_of_sign_named h
      rw [describe_named, hbare]
      exact ⟨_, rfl⟩
  | int width signed => cases h
  | floating kind => cases h
  | bool => cases h
  | void => cases h
  | composition members => cases h
  | _ => cases h; rw [describe]; exact ⟨_, rfl⟩

theorem isWord_or_sign {t : Ty} (h : t.isCompound = false) :
    (t.isWord = true ∧ t.sign? = none) ∨ ∃ c, t.sign? = some c := by
  cases t with
  | named name => cases hbare : isBare name <;> simp [isWord, sign?, hbare]
  | composition members =>
      have hempty : members.isEmpty = true := by simpa [isCompound, isComposition, isAny] using h
      exact .inl ⟨hempty, rfl⟩
  | _ => simp [isWord, sign?]

theorem isWord_of_sign_eq_none {t : Ty} (ht : t.isCompound = false) (h : t.sign? = none) :
    t.isWord = true := by
  rcases isWord_or_sign ht with ⟨hword, _⟩ | ⟨c, hc⟩
  · exact hword
  · rw [h] at hc
    cases hc

theorem sign?_eq_none_of_isWord {t : Ty} (h : t.isWord = true) : t.sign? = none := by
  cases t with
  | named name => simp [sign?, show isBare name = true from h]
  | _ => first | rfl | cases h

theorem describe_ne_nil_of_isWord {t : Ty} (h : t.isWord = true) : t.describe false ≠ [] := by
  intro hnil
  cases word_of_isWord h with
  | bare text plain =>
      rw [description, hnil] at text
      rw [← text] at h
      cases h
  | integer width signed =>
      rw [describe] at hnil
      have hhead := head_describeInt width signed
      simp [hnil] at hhead
  | builtin text spells head =>
      rw [description, hnil] at spells
      exact absurd spells (by decide)

theorem isIdentifierChar_head {t : Ty} (h : t.isWord = true) :
    ∃ c cs, t.describe false = c :: cs ∧ isIdentifierChar c = true := by
  obtain ⟨c, cs, hcs⟩ := List.exists_cons_of_ne_nil (describe_ne_nil_of_isWord h)
  exact ⟨c, cs, hcs, isIdentifierChar_of_mem_describe h c (hcs ▸ List.mem_cons_self)⟩

theorem not_isIdentifierChar_of_sign {t : Ty} {c : Char} (h : t.sign? = some c) :
    isIdentifierChar c = false := by
  have hsigns : ['\'', '`', '<', '(', '*', '['].any isIdentifierChar = false := by decide
  apply not_isIdentifierChar_of_mem hsigns
  cases t with
  | named name => rw [(eq_tick_of_sign_named h).2]; decide
  | _ => cases h <;> simp

/-- Texts that start alike start with the same sign. -/
theorem sign?_eq_of_append_eq {t u : Ty} {r s : List Char} (ht : t.isCompound = false)
    (hu : u.isCompound = false) (h : t.describe false ++ r = u.describe false ++ s) :
    t.sign? = u.sign? := by
  have hclash : ∀ {a b : Ty} {r s : List Char} {c : Char}, a.isWord = true → b.sign? = some c →
      a.describe false ++ r ≠ b.describe false ++ s := by
    intro a b r s c ha hb heq
    obtain ⟨d, ds, hds, hd⟩ := isIdentifierChar_head ha
    obtain ⟨cs, hcs⟩ := describe_eq_sign_cons hb
    rw [hds, hcs] at heq
    rw [List.head_eq_of_cons_eq heq, not_isIdentifierChar_of_sign hb] at hd
    cases hd
  rcases isWord_or_sign ht with ⟨ht, htn⟩ | ⟨c, hc⟩
  · rcases isWord_or_sign hu with ⟨_, hun⟩ | ⟨d, hd⟩
    · rw [htn, hun]
    · exact absurd h (hclash ht hd)
  · rcases isWord_or_sign hu with ⟨hu, _⟩ | ⟨d, hd⟩
    · exact absurd h.symm (hclash hu hc)
    · obtain ⟨cs, hcs⟩ := describe_eq_sign_cons hc
      obtain ⟨ds, hds⟩ := describe_eq_sign_cons hd
      rw [hcs, hds] at h
      rw [hc, hd, List.head_eq_of_cons_eq h]

theorem sign?_eq_of_describe_eq {t : Ty} (ht : t.isCompound = false) {c : Char}
    (hc : isIdentifierChar c = false) {r s : List Char} (h : t.describe false ++ r = c :: s) :
    t.sign? = some c := by
  rcases isWord_or_sign ht with ⟨hword, _⟩ | ⟨d, hd⟩
  · obtain ⟨d, ds, hds, hident⟩ := isIdentifierChar_head hword
    rw [hds] at h
    rw [List.head_eq_of_cons_eq h, hc] at hident
    cases hident
  · obtain ⟨ds, hds⟩ := describe_eq_sign_cons hd
    rw [hds] at h
    rw [hd, List.head_eq_of_cons_eq h]

/-- A text that a closing sign cannot be taken for the start of. -/
def Opens (text : List Char) : Prop :=
  ∃ c cs, text = c :: cs ∧ c ∉ [',', ')', ';', ']', '.']

theorem Opens.not_closes {text : List Char} (h : Opens text) (rest : List Char) :
    ¬ Closes (text ++ rest) := by
  obtain ⟨c, cs, rfl, hc⟩ := h
  intro hcloses
  have := hcloses c rfl
  simp_all

theorem Opens.append {text : List Char} (h : Opens text) (rest : List Char) :
    Opens (text ++ rest) := by
  obtain ⟨c, cs, rfl, hc⟩ := h
  exact ⟨c, cs ++ rest, rfl, hc⟩

theorem opens_of_isCompound {t : Ty} (h : t.isCompound = false) : Opens (t.describe false) := by
  rcases isWord_or_sign h with ⟨hword, _⟩ | ⟨c, hc⟩
  · obtain ⟨c, cs, hcs, hident⟩ := isIdentifierChar_head hword
    refine ⟨c, cs, hcs, fun hmem => ?_⟩
    rw [not_isIdentifierChar_of_mem (by decide) hmem] at hident
    cases hident
  · obtain ⟨cs, hcs⟩ := describe_eq_sign_cons hc
    refine ⟨c, cs, hcs, ?_⟩
    cases t with
    | named name => rw [(eq_tick_of_sign_named hc).2]; decide
    | _ => cases hc <;> simp

end Frontend.Ty
