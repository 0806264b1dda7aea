/- The types written as a single word, and how names are told from them. -/
import Frontend.Proofs.Text.Cancel
import Frontend.Proofs.Text.Run
import Frontend.Ty.Description

namespace Frontend.Ty

open Text (isIdentifierChar isDigit_of_mem_toDigits toDigits_inj toList_toString)

/-- Whether the name of a nominal type is written bare. -/
def isBare (name : String) : Bool := isIdentifier name.toList && !spellsBuiltin name

theorem isIdentifier_of_isBare {name : String} (h : isBare name = true) :
    isIdentifier name.toList = true :=
  (Bool.and_eq_true_iff.mp h).1

theorem spellsBuiltin_of_isBare {name : String} (h : isBare name = true) :
    spellsBuiltin name = false := by
  simpa using (Bool.and_eq_true_iff.mp h).2

theorem describe_named (name : String) :
    (named name).describe false = if isBare name then name.toList else tickName name.toList := by
  rw [describe]
  rfl

/-- Whether the text of a type is one run of identifier characters. -/
def isWord : Ty → Bool
  | int .. => true
  | floating _ => true
  | bool => true
  | void => true
  | named name => isBare name
  | composition members => members.isEmpty
  | _ => false

theorem isIdentifierChar_of_isDigit {c : Char} (h : c.isDigit = true) :
    isIdentifierChar c = true := by
  have hascii : Text.isAscii c = true := by
    have hle : c.toNat ≤ '9'.toNat := (Char.isDigit_iff_toNat.mp h).2
    exact decide_eq_true (Nat.lt_of_le_of_lt hle (by decide))
  simp [isIdentifierChar, Text.isAlphanumeric, Text.isNumeric, hascii, h]

theorem isIdentifierChar_of_isIdentifier {name : List Char} (h : isIdentifier name = true) :
    ∀ c ∈ name, isIdentifierChar c = true := by
  cases name with
  | nil => cases h
  | cons c cs =>
      simp only [isIdentifier, Bool.and_eq_true, Bool.or_eq_true, List.all_eq_true] at h
      obtain ⟨hc, hcs⟩ := h
      intro d hd
      rcases List.mem_cons.mp hd with rfl | hd
      · rcases hc with hc | hc <;> simp [isIdentifierChar, Text.isAlphanumeric, hc]
      · exact hcs d hd

/-- What an integer type has after `Int` or `UInt`. -/
def widthDigits (width : UInt32) : List Char :=
  if width = 64 then [] else Nat.toDigits 10 width.toNat

theorem describeInt_eq (width : UInt32) (signed : Bool) :
    describeInt width signed =
      (if signed then "Int".toList else "UInt".toList) ++ widthDigits width := by
  rw [describeInt, widthDigits, toList_toString]

theorem isDigit_of_mem_widthDigits {width : UInt32} {c : Char} (h : c ∈ widthDigits width) :
    c.isDigit = true := by
  unfold widthDigits at h
  split at h
  · cases h
  · exact isDigit_of_mem_toDigits h

theorem widthDigits_inj {w₁ w₂ : UInt32} (h : widthDigits w₁ = widthDigits w₂) : w₁ = w₂ := by
  unfold widthDigits at h
  split at h <;> split at h
  · simp only [*]
  · exact absurd h.symm Nat.toDigits_ne_nil
  · exact absurd h Nat.toDigits_ne_nil
  · exact UInt32.toNat_inj.mp (toDigits_inj h)

theorem describeInt_inj {w₁ w₂ : UInt32} {s₁ s₂ : Bool}
    (h : describeInt w₁ s₁ = describeInt w₂ s₂) : w₁ = w₂ ∧ s₁ = s₂ := by
  rw [describeInt_eq, describeInt_eq] at h
  cases s₁ <;> cases s₂
  · exact ⟨widthDigits_inj (List.append_cancel_left h), rfl⟩
  · simp at h
  · simp at h
  · exact ⟨widthDigits_inj (List.append_cancel_left h), rfl⟩

theorem isIdentifierChar_of_mem_describe {t : Ty} (h : t.isWord = true) :
    ∀ c ∈ t.describe false, isIdentifierChar c = true := by
  cases t with
  | int width signed =>
      have hsign : ∀ c ∈ if signed then "Int".toList else "UInt".toList,
          isIdentifierChar c = true := by
        rw [← List.all_eq_true]
        cases signed <;> decide
      rw [describe, describeInt_eq]
      intro c hc
      rcases List.mem_append.mp hc with hc | hc
      · exact hsign c hc
      · exact isIdentifierChar_of_isDigit (isDigit_of_mem_widthDigits hc)
  | floating kind =>
      rw [describe, ← List.all_eq_true]
      cases kind <;> decide
  | bool =>
      rw [describe, ← List.all_eq_true]
      decide
  | void =>
      rw [describe, ← List.all_eq_true]
      decide
  | named name =>
      rw [describe_named, if_pos (show isBare name = true from h)]
      exact isIdentifierChar_of_isIdentifier (isIdentifier_of_isBare h)
  | composition members =>
      cases List.isEmpty_iff.mp h
      rw [describe, ← List.all_eq_true]
      decide
  | _ => cases h

theorem spellsBuiltin_describeInt (width : UInt32) (signed : Bool) :
    spellsBuiltin (String.ofList (describeInt width signed)) = true := by
  rw [describeInt_eq]
  by_cases hw : width = 64
  · rw [widthDigits, if_pos hw]
    cases signed <;> decide
  · have hne : widthDigits width ≠ [] := by
      rw [widthDigits, if_neg hw]
      exact Nat.toDigits_ne_nil
    have hpart : integerWidthPart?
        ((if signed then "Int".toList else "UInt".toList) ++ widthDigits width) =
          some (widthDigits width) := by
      cases signed <;> simp [integerWidthPart?, Text.after?]
    unfold spellsBuiltin
    split
    · rw [String.toList_ofList, hpart]
      have hall : (widthDigits width).all Char.isDigit = true :=
        List.all_eq_true.mpr fun c hc => isDigit_of_mem_widthDigits hc
      simp [hne, hall]
    · rfl

/-- The words: bare names, integer types, and the builtin types of one name each. -/
inductive Word : Ty → Prop
  | bare {name : String} (text : (named name).description = name)
      (plain : spellsBuiltin name = false) : Word (named name)
  | integer (width : UInt32) (signed : Bool) : Word (int width signed)
  | builtin {t : Ty} (text : ofName t.description = t) (spells : spellsBuiltin t.description = true)
      (head : (t.describe false).head? ≠ some 'I' ∧ (t.describe false).head? ≠ some 'U') : Word t

theorem Word.of_name {t : Ty} (name : String) (text : t.describe false = name.toList)
    (type : ofName name = t) (spells : spellsBuiltin name = true)
    (head : name.toList.head? ≠ some 'I' ∧ name.toList.head? ≠ some 'U') : Word t := by
  have hd : t.description = name := by rw [description, text, String.ofList_toList]
  refine .builtin ?_ ?_ ?_
  · rw [hd]; exact type
  · rw [hd]; exact spells
  · rw [text]; exact head

theorem word_of_isWord {t : Ty} (h : t.isWord = true) : Word t := by
  cases t with
  | int width signed => exact .integer width signed
  | floating kind =>
      refine .of_name kind.name (by rw [describe]) ?_ ?_ ?_
      · cases kind <;> rfl
      · cases kind <;> decide
      · cases kind <;> decide
  | bool => exact .of_name "Bool" (by rw [describe]) rfl (by decide) (by decide)
  | void => exact .of_name "Void" (by rw [describe]) rfl (by decide) (by decide)
  | named name =>
      refine .bare ?_ (spellsBuiltin_of_isBare h)
      rw [description, describe_named, if_pos (show isBare name = true from h),
        String.ofList_toList]
  | composition members =>
      cases List.isEmpty_iff.mp h
      exact .of_name "Any" (by rw [describe]; rfl) rfl (by decide) (by decide)
  | _ => cases h

theorem head_describeInt (width : UInt32) (signed : Bool) :
    (describeInt width signed).head? = some 'I' ∨ (describeInt width signed).head? = some 'U' := by
  rw [describeInt_eq]
  cases signed
  · exact .inr rfl
  · exact .inl rfl

/-- A word is the text of one type only. -/
theorem eq_of_describe_eq_of_word {t u : Ty} (ht : Word t) (hu : Word u)
    (h : t.describe false = u.describe false) : t = u := by
  have hd : t.description = u.description := congrArg String.ofList h
  cases ht with
  | bare htext hplain =>
      rw [htext] at hd
      cases hu with
      | bare hutext _ => rw [hutext] at hd; exact congrArg named hd
      | integer width signed =>
          rw [hd, description, describe, spellsBuiltin_describeInt] at hplain
          cases hplain
      | builtin _ hspells _ => rw [hd, hspells] at hplain; cases hplain
  | integer width signed =>
      cases hu with
      | bare hutext hplain =>
          rw [← hutext, ← hd, description, describe, spellsBuiltin_describeInt] at hplain
          cases hplain
      | integer width' signed' =>
          rw [describe, describe] at h
          obtain ⟨rfl, rfl⟩ := describeInt_inj h
          rfl
      | builtin _ _ hhead =>
          rw [← h, describe] at hhead
          exact absurd (head_describeInt width signed) (by simp [hhead])
  | builtin htext hspells hhead =>
      cases hu with
      | bare hutext hplain => rw [← hutext, ← hd, hspells] at hplain; cases hplain
      | integer width signed =>
          rw [h, describe] at hhead
          exact absurd (head_describeInt width signed) (by simp [hhead])
      | builtin hutext _ _ => rw [← htext, ← hutext, hd]

theorem escapeNameChar_append_ne {c : Char} {x y : List Char} :
    escapeNameChar c ++ x ≠ '`' :: y := by
  intro h
  unfold escapeNameChar at h
  split at h
  · cases h
  · rename_i hplain
    exact hplain (.inl (List.head_eq_of_cons_eq h))

theorem escapeNameChar_append_inj {c d : Char} {x y : List Char}
    (h : escapeNameChar c ++ x = escapeNameChar d ++ y) : c = d ∧ x = y := by
  unfold escapeNameChar at h
  split at h
  · split at h
    · exact List.cons_eq_cons.mp (List.tail_eq_of_cons_eq h)
    · rename_i hplain
      exact absurd (.inr (List.head_eq_of_cons_eq h).symm) hplain
  · rename_i hplain
    split at h
    · exact absurd (.inr (List.head_eq_of_cons_eq h)) hplain
    · exact List.cons_eq_cons.mp h

/-- The end of a name between ticks is the first tick that is not escaped. -/
theorem escaped_append_inj {x y r s : List Char}
    (h : x.flatMap escapeNameChar ++ '`' :: r = y.flatMap escapeNameChar ++ '`' :: s) :
    x = y ∧ r = s := by
  induction x generalizing y with
  | nil =>
      cases y with
      | nil => exact ⟨rfl, List.tail_eq_of_cons_eq h⟩
      | cons d y =>
          rw [List.flatMap_cons, List.append_assoc] at h
          exact absurd h.symm escapeNameChar_append_ne
  | cons c x ih =>
      rw [List.flatMap_cons, List.append_assoc] at h
      cases y with
      | nil => exact absurd h escapeNameChar_append_ne
      | cons d y =>
          rw [List.flatMap_cons, List.append_assoc] at h
          obtain ⟨rfl, hrest⟩ := escapeNameChar_append_inj h
          obtain ⟨rfl, hrs⟩ := ih hrest
          exact ⟨rfl, hrs⟩

theorem tickName_append (name rest : List Char) :
    tickName name ++ rest = '`' :: (name.flatMap escapeNameChar ++ '`' :: rest) := by
  simp [tickName]

theorem tickName_append_inj {x y r s : List Char} (h : tickName x ++ r = tickName y ++ s) :
    x = y ∧ r = s := by
  rw [tickName_append, tickName_append] at h
  exact escaped_append_inj (List.tail_eq_of_cons_eq h)

theorem identifier_append_ne_tickName {name other r s : List Char} (h : isIdentifier name = true) :
    name ++ r ≠ tickName other ++ s := by
  intro heq
  rw [tickName_append] at heq
  cases name with
  | nil => cases h
  | cons c cs =>
      have htick := isIdentifierChar_of_isIdentifier h '`' (by
        rw [← List.head_eq_of_cons_eq heq]; exact List.mem_cons_self)
      exact absurd htick (by decide)

/-- The text of a variable, bare or between ticks, is that of no other one. -/
theorem describeVar_append_inj {x y : String} {r s : List Char}
    (hr : ∀ c ∈ r.head?, isIdentifierChar c = false)
    (hs : ∀ c ∈ s.head?, isIdentifierChar c = false)
    (h : describeVar x ++ r = describeVar y ++ s) : x = y ∧ r = s := by
  have hname := List.tail_eq_of_cons_eq h
  have hxy : x.toList = y.toList ∧ r = s := by
    split at hname <;> split at hname
    · rename_i hx hy
      exact Text.run_append_inj (isIdentifierChar_of_isIdentifier hx)
        (isIdentifierChar_of_isIdentifier hy) hr hs hname
    · rename_i hx _
      exact absurd hname (identifier_append_ne_tickName hx)
    · rename_i _ hy
      exact absurd hname.symm (identifier_append_ne_tickName hy)
    · exact tickName_append_inj hname
  exact ⟨String.toList_inj.mp hxy.1, hxy.2⟩

end Frontend.Ty
