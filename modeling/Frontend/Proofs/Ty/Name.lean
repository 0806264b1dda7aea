/- Names of types: which types are read back from their texts, and which names are the texts of the
types that they stand for. -/
import Frontend.Proofs.Text.Cut
import Frontend.Proofs.Ty.Erasure
import Frontend.Proofs.Ty.Operand

namespace Frontend.Ty

open Text (isIdentifierChar)

/-- A letter or an underscore, and then letters, numeric characters and underscores. -/
def IsIdentifier (text : List Char) : Prop :=
  ∃ c cs, text = c :: cs ∧ (Text.isAlphabetic c = true ∨ c = '_') ∧
    ∀ d ∈ cs, Text.isAlphanumeric d = true ∨ d = '_'

theorem isIdentifier_iff {text : List Char} : isIdentifier text = true ↔ IsIdentifier text := by
  cases text with
  | nil => simp [isIdentifier, IsIdentifier]
  | cons c cs => simp [isIdentifier, IsIdentifier, isIdentifierChar]

instance (text : List Char) : Decidable (IsIdentifier text) :=
  decidable_of_iff _ isIdentifier_iff

/-- `Int` or `UInt` with ASCII digits after it, at least one. -/
structure SpellsWidth (digits text : List Char) : Prop where
  stem : text = "Int".toList ++ digits ∨ text = "UInt".toList ++ digits
  ne_nil : digits ≠ []
  isDigit : ∀ c ∈ digits, c.isDigit = true

/-- The widths that a name can ask for. That of `Int` is not among them. -/
def namedWidths : List (List Char) := ["8".toList, "16".toList, "32".toList]

/-- The name of an integer type by its width, but for those that are read as such. -/
def SpellsOtherWidth (text : List Char) : Prop :=
  ∃ digits, SpellsWidth digits text ∧ digits ∉ namedWidths

theorem integerWidthPart?_eq_some_iff {text digits : List Char} :
    integerWidthPart? text = some digits ↔
      text = "Int".toList ++ digits ∨ text = "UInt".toList ++ digits := by
  rw [integerWidthPart?, Option.or_eq_some_iff, Text.after?_eq_some_iff, Text.after?_eq_some_iff,
    Text.after?_eq_none_iff]
  constructor
  · rintro (h | ⟨_, h⟩)
    · exact .inr h
    · exact .inl h
  · rintro (rfl | h)
    · exact .inr ⟨by simp, rfl⟩
    · exact .inl h

theorem exists_spellsWidth_iff {text : List Char} {p : List Char → Prop} :
    (∃ digits, SpellsWidth digits text ∧ p digits) ↔
      ∃ digits ∈ integerWidthPart? text,
        digits ≠ [] ∧ digits.all Char.isDigit = true ∧ p digits := by
  refine exists_congr fun digits => ?_
  rw [Option.mem_def, integerWidthPart?_eq_some_iff, List.all_eq_true]
  constructor
  · rintro ⟨⟨hstem, hne, hdigits⟩, hp⟩
    exact ⟨hstem, hne, hdigits, hp⟩
  · rintro ⟨hstem, hne, hdigits, hp⟩
    exact ⟨⟨hstem, hne, hdigits⟩, hp⟩

instance (text : List Char) : Decidable (SpellsOtherWidth text) :=
  decidable_of_iff _ exists_spellsWidth_iff.symm

/-- The names that stand for builtin types. -/
def builtinNames : List String :=
  ["Int", "Int64", "Int8", "Int16", "Int32", "UInt", "UInt64", "UInt8", "UInt16", "UInt32",
    "Float", "Double", "Float80", "Bool", "Void", "Any"]

theorem mem_builtinNames_or (name : String) : name ∈ builtinNames ∨ ofName name = named name := by
  unfold ofName
  split
  all_goals simp [builtinNames]

theorem children_ofName (name : String) : (ofName name).children = [] := by
  unfold ofName
  split <;> rfl

theorem description_int (width : UInt32) (signed : Bool) :
    (int width signed).description = String.ofList (describeInt width signed) := by
  rw [description, describe]

theorem spellsBuiltin_iff_of_named {name : String} (h : ofName name = named name) :
    spellsBuiltin name = true ↔ ∃ digits, SpellsWidth digits name.toList := by
  have hparts := @exists_spellsWidth_iff name.toList fun _ => True
  simp only [and_true] at hparts
  rw [hparts, spellsBuiltin, h]
  cases integerWidthPart? name.toList with
  | none => simp
  | some digits => simp

theorem ofName_eq_named {name : String} (h : spellsBuiltin name = false) :
    ofName name = named name := by
  refine (mem_builtinNames_or name).resolve_left fun hmem => ?_
  have hspells : ∀ name ∈ builtinNames, spellsBuiltin name = true := by decide
  rw [hspells name hmem] at h
  cases h

/-- The widths of the integer types that have a name. -/
def nameableWidths : List UInt32 := [8, 16, 32, 64]

theorem mem_nameableWidths_of_ofName {name : String} {width : UInt32} {signed : Bool}
    (h : ofName name = int width signed) : width ∈ nameableWidths := by
  unfold ofName at h
  split at h <;> cases h <;> decide

theorem ofName_description_int_iff (width : UInt32) (signed : Bool) :
    ofName (int width signed).description = int width signed ↔ width ∈ nameableWidths := by
  refine ⟨mem_nameableWidths_of_ofName, fun hwidth => ?_⟩
  obtain rfl | rfl | rfl | rfl : width = 8 ∨ width = 16 ∨ width = 32 ∨ width = 64 := by
    simpa [nameableWidths] using hwidth
  all_goals
    rw [description_int]
    cases signed <;> rfl

/-- A word is read back as the type that it is the text of, but for an integer type of a width that
no name asks for. -/
theorem Word.ofName_description_iff {t : Ty} (h : Word t) :
    ofName t.description = t ↔ ∀ width signed, t = int width signed → width ∈ nameableWidths := by
  cases h with
  | bare text plain =>
      rw [text]
      exact iff_of_true (ofName_eq_named plain) nofun
  | integer width signed =>
      rw [ofName_description_int_iff]
      constructor
      · rintro hwidth _ _ ⟨⟩
        exact hwidth
      · exact fun hwidth => hwidth width signed rfl
  | builtin text spells head =>
      refine iff_of_true text ?_
      rintro width signed rfl
      rw [describe] at head
      exact absurd (head_describeInt width signed) (by simp [head])

/-- A text with a blank or a sign in it is no identifier, so only words are. -/
theorem isWord_of_isIdentifier {t : Ty} (h : isIdentifier (t.describe false) = true) :
    t.isWord = true := by
  have hchars := isIdentifierChar_of_isIdentifier h
  cases ht : t.isCompound with
  | true =>
      obtain ⟨m, ms, rfl⟩ := eq_composition_of_isCompound ht
      have hblank : ' ' ∈ (composition (m :: ms)).describe false := by
        rw [describe_eq_intercalate]
        have hlength := two_le_length_operands ht
        match hops : (composition (m :: ms)).operands with
        | [] => simp [hops] at hlength
        | [_] => simp [hops] at hlength
        | a :: b :: rest => simp [List.intercalate_cons_cons]
      exact absurd (hchars ' ' hblank) (by decide)
  | false =>
      rcases isWord_or_sign ht with ⟨hword, _⟩ | ⟨c, hc⟩
      · exact hword
      · obtain ⟨cs, hcs⟩ := describe_eq_sign_cons hc
        have hc' := hchars c (hcs ▸ List.mem_cons_self)
        rw [not_isIdentifierChar_of_sign hc] at hc'
        cases hc'

theorem equiv_ofName_iff {name : String} {t : Ty} :
    (ofName name).equiv t = true ↔ ofName name = t := by
  constructor
  · intro h
    exact eq_of_withoutLengths_eq (children_ofName name) ((equiv_iff _ _).mp h)
  · rintro rfl
    exact equiv_self _

theorem tickName_ne_self (name : List Char) : tickName name ≠ name := by
  have hescaped : name.length ≤ (name.flatMap escapeNameChar).length := by
    induction name with
    | nil => exact Nat.le_refl 0
    | cons c cs ih =>
        have hc : 1 ≤ (escapeNameChar c).length := by
          unfold escapeNameChar
          split <;> simp
        rw [List.flatMap_cons, List.length_append, List.length_cons]
        omega
  intro h
  have hlength := congrArg List.length h
  rw [tickName, List.length_append, List.length_append, String.length_toList] at hlength
  have htick : "`".length = 1 := rfl
  omega

/-- A nominal type is written as its name just if the name is bare. -/
theorem description_named_eq_iff (name : String) :
    (named name).description = name ↔ isBare name = true := by
  rw [description, describe_named, ← String.toList_inj, String.toList_ofList]
  cases isBare name with
  | true => exact iff_of_true rfl rfl
  | false => exact iff_of_false (tickName_ne_self name.toList) Bool.false_ne_true

theorem description_ofName_builtin_iff {name : String} (h : name ∈ builtinNames) :
    (ofName name).description = name ↔ name ≠ "Int64" ∧ name ≠ "UInt64" := by
  revert name
  simp only [builtinNames, List.forall_mem_cons, List.not_mem_nil, false_imp_iff, implies_true,
    and_true, ofName, any, description, describe]
  and_intros <;> decide

theorem spellsOtherWidth_iff {name : String} (h : name ∉ builtinNames) :
    SpellsOtherWidth name.toList ↔ ∃ digits, SpellsWidth digits name.toList := by
  refine ⟨fun ⟨digits, hspells, _⟩ => ⟨digits, hspells⟩, ?_⟩
  rintro ⟨digits, hspells⟩
  refine ⟨digits, hspells, fun hmem => h ?_⟩
  have hnames : ∀ digits ∈ namedWidths, String.ofList ("Int".toList ++ digits) ∈ builtinNames ∧
      String.ofList ("UInt".toList ++ digits) ∈ builtinNames := by decide
  rw [← String.ofList_toList (s := name)]
  rcases hspells.stem with hname | hname
  · rw [hname]
    exact (hnames digits hmem).1
  · rw [hname]
    exact (hnames digits hmem).2

/-- The names that are the texts of the types that they stand for. -/
theorem description_ofName_eq_iff (name : String) :
    (ofName name).description = name ↔ IsIdentifier name.toList ∧
      (name ≠ "Int64" ∧ name ≠ "UInt64") ∧ ¬ SpellsOtherWidth name.toList := by
  by_cases hname : name ∈ builtinNames
  · have hidentifier : ∀ name ∈ builtinNames, isIdentifier name.toList = true := by decide
    have hwidth : ∀ name ∈ builtinNames, name ≠ "Int64" ∧ name ≠ "UInt64" →
        ¬ SpellsOtherWidth name.toList := by decide
    rw [description_ofName_builtin_iff hname, ← isIdentifier_iff]
    exact ⟨fun hne => ⟨hidentifier name hname, hne, hwidth name hname hne⟩, fun h => h.2.1⟩
  · have hofName := (mem_builtinNames_or name).resolve_left hname
    have hne : name ≠ "Int64" ∧ name ≠ "UInt64" := by
      refine ⟨?_, ?_⟩ <;> rintro rfl <;> exact hname (by decide)
    rw [hofName, description_named_eq_iff, isBare, Bool.and_eq_true, Bool.not_eq_true',
      Bool.eq_false_iff, Ne, spellsBuiltin_iff_of_named hofName, spellsOtherWidth_iff hname,
      isIdentifier_iff]
    simp only [hne, not_false_eq_true, and_self, true_and, ne_eq]

/-- A type whose text is an identifier is read back from it, but for an integer type of a width
that no name asks for; and a name is the text of its type unless it has to be put between ticks or
has a shorter form. -/
theorem words_readBack :
    (∀ t : Ty, IsIdentifier t.description.toList →
      ((ofName t.description).equiv t = true ↔
        ¬ ∃ width signed, t = int width signed ∧ width ∉ nameableWidths) ∧
      ((ofName t.description).equiv t = true → ofName t.description = t)) ∧
    ∀ name : String, (ofName name).description = name ↔ IsIdentifier name.toList ∧
      (name ≠ "Int64" ∧ name ≠ "UInt64") ∧ ¬ SpellsOtherWidth name.toList := by
  refine ⟨?_, description_ofName_eq_iff⟩
  intro t ht
  rw [description, String.toList_ofList, ← isIdentifier_iff] at ht
  rw [equiv_ofName_iff, (word_of_isWord (isWord_of_isIdentifier ht)).ofName_description_iff]
  simp only [not_exists, not_and, not_not, and_true, imp_self]

/-- `Int7` is not read back as an integer type, and is no text of a nominal type either; digits
beyond ASCII make a name like any other. -/
theorem words_readBack_digits :
    let t := int 7 true
    let u := named "Int٣"
    (IsIdentifier t.description.toList ∧ (ofName t.description).equiv t = false) ∧
      (IsIdentifier u.description.toList ∧ ofName u.description = u) ∧
      (ofName "Int7").description ≠ "Int7" ∧ (ofName "Int٣").description = "Int٣" := by
  intro t u
  obtain ⟨hreadBack, hnames⟩ := words_readBack
  have ht : IsIdentifier t.description.toList := by
    rw [description_int]
    decide
  have hidentifier : IsIdentifier "Int٣".toList := by decide +kernel
  have hname : u.description = "Int٣" :=
    (hnames "Int٣").mpr ⟨hidentifier, by decide, by decide⟩
  have hu : IsIdentifier u.description.toList := by
    rw [hname]
    exact hidentifier
  refine ⟨⟨ht, ?_⟩, ⟨hu, ?_⟩, ?_, hname⟩
  · rw [Bool.eq_false_iff, Ne, (hreadBack t ht).1, not_not]
    exact ⟨7, true, rfl, by decide⟩
  · exact (hreadBack u hu).2 ((hreadBack u hu).1.mpr nofun)
  · rw [Ne, hnames]
    decide

end Frontend.Ty
