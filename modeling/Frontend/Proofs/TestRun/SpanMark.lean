/- What is left of a text when the places in it are erased. -/
import Frontend.Proofs.Text.Digit
import Frontend.Proofs.Text.Quoted
import Frontend.TestRun.TokenDump

namespace Frontend.SpanMark

open Text (isDecimalDigit quoted)

/-- The character after an `@` that makes a place of it. -/
def opensMark (c : Char) : Bool := c == '_' || isDecimalDigit c

/-- Something in the text looks like a place. -/
def Occurs (text : List Char) : Prop :=
  ∃ before c after, text = before ++ '@' :: c :: after ∧ opensMark c = true

/-- The characters that places are made of. -/
def isMarkChar (c : Char) : Bool := c == '@' || c == '/' || c == '-' || opensMark c

section
variable {c d separator : Char} {text run tail rest next : List Char} {n : Nat}

theorem head_isDecimalDigit (htail : ∀ c ∈ tail.head?, isMarkChar c = false) :
    ∀ c ∈ tail.head?, isDecimalDigit c = false := by
  intro c hc
  have hmark := htail c hc
  simp only [isMarkChar, opensMark, Bool.or_eq_false_iff] at hmark
  exact hmark.2.2

theorem skipPart?_append (hseparator : isMarkChar separator = true)
    (htail : ∀ c ∈ tail.head?, isMarkChar c = false) (run : List Char) :
    skipPart? separator (run ++ tail) = (skipPart? separator run).map (· ++ tail) := by
  have hdigit := head_isDecimalDigit htail
  match run with
  | [] =>
      match tail with
      | [] => rfl
      | [c] => rfl
      | c :: d :: cs =>
          have hne : c ≠ separator := by
            rintro rfl
            simp [htail c rfl] at hseparator
          simp [skipPart?, hne]
  | [c] =>
      match tail with
      | [] => rfl
      | d :: cs => simp [skipPart?, hdigit d rfl]
  | c :: d :: cs =>
      have hdrop : (cs ++ tail).dropWhile isDecimalDigit =
          cs.dropWhile isDecimalDigit ++ tail := by
        rw [List.dropWhile_append, Text.dropWhile_eq_self_of_head hdigit]
        split
        · rename_i hnil
          rw [List.isEmpty_iff.mp hnil, List.nil_append]
        · rfl
      simp only [List.cons_append, skipPart?, hdrop]
      split <;> rfl

/-- What follows a place, from right after the number of its file. -/
def skipOffsets (text : List Char) : List Char :=
  match skipPart? '/' text with
  | none => text
  | some rest => (skipPart? '-' rest).getD rest

theorem skip?_of_ne (h : ∀ cs, text ≠ '@' :: '_' :: cs) :
    skip? text = (skipPart? '@' text).map skipOffsets := by
  unfold skip?
  split
  · exact absurd rfl (h _)
  · rfl

theorem skipOffsets_append (htail : ∀ c ∈ tail.head?, isMarkChar c = false) (run : List Char) :
    skipOffsets (run ++ tail) = skipOffsets run ++ tail := by
  rw [skipOffsets, skipPart?_append (by decide) htail, skipOffsets]
  cases skipPart? '/' run with
  | none => rfl
  | some rest =>
      simp only [Option.map_some, skipPart?_append (by decide : isMarkChar '-' = true) htail]
      cases skipPart? '-' rest <;> rfl

/-- A place ends where a character follows that no place has. -/
theorem skip?_append (htail : ∀ c ∈ tail.head?, isMarkChar c = false) (run : List Char) :
    skip? (run ++ tail) = (skip? run).map (· ++ tail) := by
  by_cases h : ∃ cs, run = '@' :: '_' :: cs
  · obtain ⟨cs, rfl⟩ := h
    rfl
  · have hrun := not_exists.mp h
    have hboth : ∀ cs, run ++ tail ≠ '@' :: '_' :: cs := by
      intro cs hcs
      match run with
      | [] => exact absurd (htail '@' (by rw [show tail = _ from hcs]; rfl)) (by decide)
      | [c] =>
          obtain ⟨_, htext⟩ := List.cons_eq_cons.mp hcs
          exact absurd (htail '_' (by rw [show tail = _ from htext]; rfl)) (by decide)
      | c :: d :: run =>
          obtain ⟨rfl, htext⟩ := List.cons_eq_cons.mp hcs
          obtain ⟨rfl, _⟩ := List.cons_eq_cons.mp htext
          exact hrun run rfl
    rw [skip?_of_ne hboth, skip?_of_ne hrun, skipPart?_append (by decide) htail, Option.map_map,
      Option.map_map]
    exact congrArg (Option.map · _) (funext (skipOffsets_append htail))

/-- Only an `@` with a character after it that makes a place of it starts a place. -/
theorem skip?_eq_none_iff :
    skip? text = none ↔ ¬ ∃ c after, text = '@' :: c :: after ∧ opensMark c = true := by
  match text with
  | [] => exact iff_of_true rfl (by simp)
  | [c] =>
      rw [skip?_of_ne (by simp)]
      exact iff_of_true rfl (by simp)
  | c :: d :: cs =>
      by_cases hc : c = '@'
      · subst hc
        by_cases hd : d = '_'
        · subst hd
          exact iff_of_false nofun (not_not_intro ⟨'_', cs, rfl, rfl⟩)
        · rw [skip?_of_ne (by simp [hd]), skipPart?]
          simp [opensMark, hd]
      · rw [skip?_of_ne (by simp [hc]), skipPart?, if_neg (by simp [hc])]
        exact iff_of_true rfl (by simp [hc])

theorem erase_nil : erase [] = [] := by
  rw [erase]
  rfl

theorem erase_of_skip? (h : skip? text = some rest) : erase text = erase rest := by
  rw [erase]
  split
  · rename_i h'
    rw [Option.some.inj (h.symm.trans h')]
  · rename_i h'
    cases h.symm.trans h'

theorem erase_cons (h : skip? (c :: rest) = none) : erase (c :: rest) = c :: erase rest := by
  rw [erase]
  split
  · rename_i h'
    cases h.symm.trans h'
  · rfl

theorem erase_cons_of_ne (h : c ≠ '@') (rest : List Char) :
    erase (c :: rest) = c :: erase rest := by
  refine erase_cons (skip?_eq_none_iff.mpr ?_)
  rintro ⟨d, after, htext, _⟩
  exact h (List.cons_eq_cons.mp htext).1

/-- Where no `@` stands, nothing is erased. -/
theorem erase_append (h : '@' ∉ run) (rest : List Char) :
    erase (run ++ rest) = run ++ erase rest := by
  induction run with
  | nil => rfl
  | cons c run ih =>
      obtain ⟨hc, hrun⟩ := not_or.mp (mt List.mem_cons.mpr h)
      rw [List.cons_append, erase_cons_of_ne (Ne.symm hc), ih hrun, List.cons_append]

theorem erase_length_le (text : List Char) : (erase text).length ≤ text.length := by
  fun_induction erase text with
  | case1 text rest h ih => exact Nat.le_trans ih (Nat.le_of_lt (skip?_length_lt h))
  | case2 => exact Nat.le_refl _
  | case3 c cs _ ih => exact Nat.succ_le_succ ih

theorem occurs_cons :
    Occurs (c :: text) ↔ (∃ d after, c :: text = '@' :: d :: after ∧ opensMark d = true) ∨
      Occurs text := by
  constructor
  · rintro ⟨before, d, after, htext, hd⟩
    cases before with
    | nil => exact .inl ⟨d, after, htext, hd⟩
    | cons _ before => exact .inr ⟨before, d, after, (List.cons_eq_cons.mp htext).2, hd⟩
  · rintro (⟨d, after, htext, hd⟩ | ⟨before, d, after, rfl, hd⟩)
    · exact ⟨[], d, after, htext, hd⟩
    · exact ⟨c :: before, d, after, rfl, hd⟩

/-- A text is left as it is just if nothing in it looks like a place. -/
theorem erase_eq_self_iff : erase text = text ↔ ¬ Occurs text := by
  induction text with
  | nil =>
      refine iff_of_true erase_nil ?_
      rintro ⟨before, d, after, htext, _⟩
      simp at htext
  | cons c text ih =>
      rw [occurs_cons, not_or, ← skip?_eq_none_iff, ← ih]
      cases hskip : skip? (c :: text) with
      | none =>
          rw [erase_cons hskip]
          simp
      | some rest =>
          have hlt := Nat.lt_of_le_of_lt (erase_length_le rest) (skip?_length_lt hskip)
          rw [← erase_of_skip? hskip] at hlt
          refine iff_of_false ?_ nofun
          intro heq
          rw [heq] at hlt
          exact Nat.lt_irrefl _ hlt

theorem isPlain_of_isMarkChar (h : isMarkChar c = true) : Text.isPlain c = true := by
  simp only [isMarkChar, opensMark, Bool.or_eq_true, beq_iff_eq] at h
  rcases h with ((rfl | rfl) | rfl) | rfl | hdigit
  · decide
  · decide
  · decide
  · decide
  · exact Text.isPlain_of_isDecimalDigit hdigit

theorem escapeChar_of_isMarkChar (h : isMarkChar c = true) :
    (Text.escapeChar ['"'] c).toList = [c] := by
  have hsigns : ∀ p ∈ Text.quotedSigns, isMarkChar p.1 = false := by decide
  rw [Text.escapeChar_of_no_sign fun sign hsign => by simp [hsigns _ hsign] at h,
    if_pos (isPlain_of_isMarkChar h), Char.toString, String.toList_singleton]

theorem quoted_of_isMarkChar (h : ∀ c ∈ run, isMarkChar c = true) : quoted run = run := by
  induction run with
  | nil => rfl
  | cons c run ih =>
      obtain ⟨hc, hrun⟩ := List.forall_mem_cons.mp h
      rw [Text.quoted_cons, escapeChar_of_isMarkChar hc, ih hrun, List.singleton_append]

/-- What is written for other characters does not go on with a place. -/
theorem head_quoted (h : ∀ c ∈ text.head?, isMarkChar c = false) (next : List Char) :
    ∀ c ∈ (quoted text ++ '"' :: next).head?, isMarkChar c = false := by
  cases text with
  | nil =>
      rintro _ ⟨⟩
      decide
  | cons c text =>
      have hescape := Text.quotedAs_escapeChar c
      rw [Text.quoted_cons]
      generalize (Text.escapeChar ['"'] c).toList = x at hescape
      cases hescape with
      | sign =>
          rintro _ ⟨⟩
          decide
      | plain => exact h
      | code =>
          rintro _ ⟨⟩
          decide

theorem at_not_mem_escapeChar (h : c ≠ '@') : '@' ∉ (Text.escapeChar ['"'] c).toList := by
  have hsigns : ∀ p ∈ Text.quotedSigns, p.2 ≠ '@' := by decide
  have hescape := Text.quotedAs_escapeChar c
  generalize (Text.escapeChar ['"'] c).toList = x at hescape
  cases hescape with
  | sign hsign => simp [Ne.symm (hsigns _ hsign)]
  | plain => simp [Ne.symm h]
  | code => simp [Text.not_mem_toDigits_sixteen (c := '@') (by decide)]

theorem skipPart?_suffix (h : skipPart? separator text = some rest) : rest <:+ text := by
  unfold skipPart? at h
  split at h
  · cases h
  · cases h
  · split at h
    · cases h
      exact (List.dropWhile_suffix _).trans (List.suffix_append [_, _] _)
    · cases h

theorem skipOffsets_suffix (text : List Char) : skipOffsets text <:+ text := by
  unfold skipOffsets
  split
  · exact List.suffix_refl text
  · rename_i rest hoffset
    cases hdash : skipPart? '-' rest with
    | none => exact skipPart?_suffix hoffset
    | some last => exact (skipPart?_suffix hdash).trans (skipPart?_suffix hoffset)

theorem skip?_suffix (h : skip? text = some rest) : rest <:+ text := by
  by_cases hnowhere : ∃ cs, text = '@' :: '_' :: cs
  · obtain ⟨cs, rfl⟩ := hnowhere
    cases h
    exact List.suffix_append ['@', '_'] _
  · rw [skip?_of_ne (not_exists.mp hnowhere)] at h
    obtain ⟨after, hafter, rfl⟩ := Option.map_eq_some_iff.mp h
    exact (skipOffsets_suffix after).trans (skipPart?_suffix hafter)

/-- The characters of a place are written as they are, and nothing that is written for other
characters goes on with it. So a place stands in quoted text where it stands in the text. -/
theorem skip?_quoted (text next : List Char) :
    skip? (quoted text ++ '"' :: next) =
      (skip? text).map fun rest => quoted rest ++ '"' :: next := by
  have hsplit : text.takeWhile isMarkChar ++ text.dropWhile isMarkChar = text :=
    List.takeWhile_append_dropWhile
  have hrun : ∀ c ∈ text.takeWhile isMarkChar, isMarkChar c = true :=
    fun c hc => List.mem_takeWhile_imp hc
  have htail := Text.head_dropWhile (p := isMarkChar) text
  rw [← hsplit]
  generalize text.takeWhile isMarkChar = run at hrun
  generalize text.dropWhile isMarkChar = tail at htail
  rw [Text.quoted_append, quoted_of_isMarkChar hrun, List.append_assoc,
    skip?_append (head_quoted htail next), skip?_append htail, Option.map_map]
  cases hskip : skip? run with
  | none => rfl
  | some rest =>
      have hrest : ∀ c ∈ rest, isMarkChar c = true :=
        fun c hc => hrun c ((skip?_suffix hskip).mem hc)
      rw [Option.map_some, Option.map_some, Function.comp_apply, Text.quoted_append,
        quoted_of_isMarkChar hrest, List.append_assoc]

/-- Places are erased from quoted text as they are from the text itself. -/
theorem erase_quoted (text next : List Char) :
    erase (quoted text ++ '"' :: next) = quoted (erase text) ++ '"' :: erase next := by
  fun_induction erase text with
  | case1 text rest h ih =>
      rw [erase_of_skip? (by rw [skip?_quoted, h, Option.map_some]), ih]
  | case2 => exact erase_cons_of_ne (by decide) next
  | case3 c cs h ih =>
      rw [Text.quoted_cons, Text.quoted_cons, List.append_assoc, List.append_assoc, ← ih]
      by_cases hc : c = '@'
      · subst hc
        have hnone := skip?_quoted ('@' :: cs) next
        rw [h, Option.map_none, Text.quoted_cons, List.append_assoc] at hnone
        rw [escapeChar_of_isMarkChar (by decide)] at hnone ⊢
        exact erase_cons hnone
      · exact erase_append (at_not_mem_escapeChar hc) _

theorem erase_quoteText (s : String) (next : List Char) :
    erase ((Text.quoteText s).toList ++ next) =
      (Text.quoteText (String.ofList (erase s.toList))).toList ++ erase next := by
  rw [Text.toList_quoteText, Text.toList_quoteText, String.toList_ofList, List.cons_append,
    List.append_assoc, List.singleton_append, erase_cons_of_ne (by decide), erase_quoted,
    List.cons_append, List.append_assoc, List.singleton_append]

theorem exists_digits (n : Nat) : ∃ d ds, (toString n).toList = d :: ds ∧
    d.isDigit = true ∧ ∀ c ∈ d :: ds, isDecimalDigit c = true := by
  rw [Text.toList_toString]
  cases hdigits : Nat.toDigits 10 n with
  | nil => exact absurd hdigits Nat.toDigits_ne_nil
  | cons d ds =>
      have hall : ∀ c ∈ d :: ds, c.isDigit = true := by
        intro c hc
        rw [← hdigits] at hc
        exact Text.isDigit_of_mem_toDigits hc
      exact ⟨d, ds, rfl, hall d List.mem_cons_self, fun c hc =>
        Text.isDecimalDigit_of_isDigit (hall c hc)⟩

theorem skipPart?_number (separator : Char) (n : Nat)
    (hnext : ∀ c ∈ next.head?, isDecimalDigit c = false) :
    skipPart? separator (separator :: ((toString n).toList ++ next)) = some next := by
  obtain ⟨d, ds, hdigits, _, hall⟩ := exists_digits n
  obtain ⟨hd, hds⟩ := List.forall_mem_cons.mp hall
  rw [hdigits, List.cons_append, skipPart?, if_pos ⟨rfl, hd⟩,
    Text.dropWhile_append_of_head hds hnext]

theorem skip?_number (n : Nat) (hnext : ∀ c ∈ next.head?, isDecimalDigit c = false) :
    skip? ('@' :: ((toString n).toList ++ next)) = some (skipOffsets next) := by
  have hne : ∀ cs, '@' :: ((toString n).toList ++ next) ≠ '@' :: '_' :: cs := by
    intro cs hcs
    obtain ⟨d, ds, hdigits, hd, _⟩ := exists_digits n
    rw [hdigits, List.cons_append] at hcs
    obtain ⟨rfl, _⟩ := List.cons_eq_cons.mp (List.cons_eq_cons.mp hcs).2
    exact absurd hd (by decide)
  rw [skip?_of_ne hne, skipPart?_number '@' n hnext, Option.map_some]

/-- The whole place of a value is skipped, and nothing after it. -/
theorem skip?_span (span : Span) (hnext : ∀ c ∈ next.head?, isMarkChar c = false) :
    skip? (span.text.toList ++ next) = some next := by
  have hdigit := head_isDecimalDigit hnext
  have hdash : skipPart? '-' next = none :=
    skipPart?_append (by decide : isMarkChar '-' = true) hnext []
  cases span with
  | nowhere => rfl
  | within f a b =>
      have hslash : ∀ next, ∀ c ∈ ('/' :: next : List Char).head?, isDecimalDigit c = false := by
        rintro next _ ⟨⟩
        decide
      have hplace : ∀ tail, (Position.inFile f a).text.toList ++ tail =
          '@' :: ((toString f.number).toList ++ '/' :: ((toString a).toList ++ tail)) := by
        intro tail
        simp [Position.text]
      by_cases hab : a = b
      · rw [Span.text, if_pos hab, hplace, skip?_number _ (hslash _), skipOffsets,
          skipPart?_number '/' a hdigit]
        simp only [hdash, Option.getD_none]
      · have hrange : (Span.within f a b).text.toList ++ next =
            (Position.inFile f a).text.toList ++ '-' :: ((toString b).toList ++ next) := by
          simp [Span.text, hab]
        have hminus : ∀ c ∈ ('-' :: ((toString b).toList ++ next) : List Char).head?,
            isDecimalDigit c = false := by
          rintro _ ⟨⟩
          decide
        rw [hrange, hplace, skip?_number _ (hslash _), skipOffsets,
          skipPart?_number '/' a hminus]
        simp only [skipPart?_number '-' b hdigit, Option.getD_some]

end

end Frontend.SpanMark
