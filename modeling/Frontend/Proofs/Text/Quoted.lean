/- Quoted text: what stands for each character, and that the quotation marks are told from it. -/
import Frontend.Proofs.Text.Numeral
import Frontend.Proofs.Text.Run
import Frontend.Text.Quoted

namespace Frontend.Text

/-- The characters that are written as a backslash and a sign. -/
def quotedSigns : List (Char × Char) :=
  [('\x00', '0'), ('\t', 't'), ('\r', 'r'), ('\n', 'n'), ('\\', '\\'), ('"', '"')]

/-- What a character is written as between double quotes. -/
inductive QuotedAs : Char → List Char → Prop where
  | sign {c s} (h : (c, s) ∈ quotedSigns) : QuotedAs c ['\\', s]
  | plain {c} (hslash : c ≠ '\\') (hquote : c ≠ '"') : QuotedAs c [c]
  | code {c} : QuotedAs c ('\\' :: 'u' :: '\x7b' :: (Nat.toDigits 16 c.toNat ++ ['\x7d']))

/-- The characters that stand for the text between the quotation marks. -/
def quoted (text : List Char) : List Char := text.flatMap fun c => (escapeChar ['"'] c).toList

theorem quoted_cons (c : Char) (text : List Char) :
    quoted (c :: text) = (escapeChar ['"'] c).toList ++ quoted text :=
  List.flatMap_cons

theorem quoted_append (text other : List Char) :
    quoted (text ++ other) = quoted text ++ quoted other :=
  List.flatMap_append

/-- The number that hexadecimal digits stand for. -/
def hexValue (cs : List Char) : Nat :=
  cs.foldl (fun value c => 16 * value + (digitValue? 16 c).getD 0) 0

theorem digitValue?_digitChar {d : Nat} (h : d < 16) : digitValue? 16 d.digitChar = some d :=
  digitValue?_of_isDigit ⟨h, .inl rfl⟩

theorem hexValue_toDigits (n : Nat) : hexValue (Nat.toDigits 16 n) = n := by
  induction n using Nat.base_induction 16 (by decide) with
  | single m hm =>
      rw [Nat.toDigits_of_lt_base hm, hexValue, List.foldl_cons, List.foldl_nil,
        digitValue?_digitChar hm, Option.getD_some, Nat.mul_zero, Nat.zero_add]
  | digit m k hk hm ih =>
      rw [hexValue] at ih
      rw [← Nat.toDigits_append_toDigits (by decide) hm hk, Nat.toDigits_of_lt_base hk, hexValue,
        List.foldl_append, ih, List.foldl_cons, List.foldl_nil, digitValue?_digitChar hk,
        Option.getD_some]

theorem digitChar_of_mem_toDigits {n : Nat} {c : Char} (h : c ∈ Nat.toDigits 16 n) :
    ∃ d < 16, c = d.digitChar := by
  induction n using Nat.base_induction 16 (by decide) with
  | single m hm =>
      rw [Nat.toDigits_of_lt_base hm, List.mem_singleton] at h
      exact ⟨m, hm, h⟩
  | digit m k hk hm ih =>
      rw [← Nat.toDigits_append_toDigits (by decide) hm hk, Nat.toDigits_of_lt_base hk,
        List.mem_append, List.mem_singleton] at h
      rcases h with h | h
      · exact ih h
      · exact ⟨k, hk, h⟩

section
variable {c d : Char} {x y r s text other : List Char}

theorem escapeChar_of_sign {sign : Char} (h : (c, sign) ∈ quotedSigns) :
    (escapeChar ['"'] c).toList = ['\\', sign] := by
  simp only [quotedSigns, List.mem_cons, Prod.mk.injEq, List.not_mem_nil, or_false] at h
  rcases h with ⟨rfl, rfl⟩ | ⟨rfl, rfl⟩ | ⟨rfl, rfl⟩ | ⟨rfl, rfl⟩ | ⟨rfl, rfl⟩ | ⟨rfl, rfl⟩
  all_goals rfl

theorem escapeChar_of_no_sign (h : ∀ sign, (c, sign) ∉ quotedSigns) :
    escapeChar ['"'] c = if isPlain c then c.toString else codePointEscape c := by
  have hother : ∀ p ∈ quotedSigns, c ≠ p.1 := by
    rintro p hp rfl
    exact h p.2 hp
  simp only [quotedSigns, List.forall_mem_cons] at hother
  simp [escapeChar, hother]

theorem quotedAs_escapeChar (c : Char) : QuotedAs c (escapeChar ['"'] c).toList := by
  by_cases h : ∃ sign, (c, sign) ∈ quotedSigns
  · obtain ⟨sign, hsign⟩ := h
    rw [escapeChar_of_sign hsign]
    exact .sign hsign
  · have hno := not_exists.mp h
    rw [escapeChar_of_no_sign hno]
    split
    · rw [Char.toString, String.toList_singleton]
      refine .plain ?_ ?_
      · rintro rfl
        exact hno '\\' (by decide)
      · rintro rfl
        exact hno '"' (by decide)
    · have hcode : (codePointEscape c).toList =
          '\\' :: 'u' :: '\x7b' :: (Nat.toDigits 16 c.toNat ++ ['\x7d']) := by
        simp [codePointEscape, hexText]
      rw [hcode]
      exact .code

theorem not_mem_toDigits_sixteen {n : Nat} (h : ∀ d < 16, d.digitChar ≠ c) :
    c ∉ Nat.toDigits 16 n := by
  intro hmem
  obtain ⟨d, hd, rfl⟩ := digitChar_of_mem_toDigits hmem
  exact h d hd rfl

theorem QuotedAs.append_ne (h : QuotedAs c x) : x ++ r ≠ '"' :: s := by
  cases h with
  | sign h => simp
  | plain _ hquote => simp [hquote]
  | code => simp

/-- The end of what stands for a character is told without looking further. -/
theorem QuotedAs.append_inj (hx : QuotedAs c x) (hy : QuotedAs d y) (h : x ++ r = y ++ s) :
    c = d ∧ r = s := by
  have hsigns : ∀ p ∈ quotedSigns, p.2 ≠ 'u' ∧ ∀ q ∈ quotedSigns, p.2 = q.2 → p.1 = q.1 := by
    decide
  have hbrace : ∀ n, ∀ d ∈ Nat.toDigits 16 n, (d != '\x7d') = true := by
    intro n d hd
    exact bne_iff_ne.mpr fun heq => not_mem_toDigits_sixteen (by decide) (heq ▸ hd)
  cases hx with
  | sign hc =>
      cases hy with
      | sign hd =>
          obtain ⟨_, hsign⟩ := List.cons_eq_cons.mp h
          obtain ⟨hsign, hrest⟩ := List.cons_eq_cons.mp hsign
          exact ⟨(hsigns _ hc).2 _ hd hsign, hrest⟩
      | plain hslash => simp [hslash.symm] at h
      | code =>
          obtain ⟨_, hsign⟩ := List.cons_eq_cons.mp h
          exact absurd (List.cons_eq_cons.mp hsign).1 (hsigns _ hc).1
  | plain hslash =>
      cases hy with
      | sign hd => simp [hslash] at h
      | plain => exact List.cons_eq_cons.mp h
      | code => simp [hslash] at h
  | code =>
      cases hy with
      | sign hd =>
          obtain ⟨_, hsign⟩ := List.cons_eq_cons.mp h
          exact absurd (List.cons_eq_cons.mp hsign).1.symm (hsigns _ hd).1
      | plain hslash => simp [hslash.symm] at h
      | code =>
          simp only [List.cons_append, List.append_assoc, List.cons.injEq, true_and,
            List.nil_append] at h
          obtain ⟨hdigits, hrest⟩ := run_append_inj (hbrace _) (hbrace _) (by simp) (by simp) h
          have hcode := congrArg hexValue hdigits
          rw [hexValue_toDigits, hexValue_toDigits] at hcode
          exact ⟨Char.toNat_inj.mp hcode, (List.cons_eq_cons.mp hrest).2⟩

/-- The closing quotation mark is the first one that is not escaped. -/
theorem quoted_append_inj (h : quoted text ++ '"' :: r = quoted other ++ '"' :: s) :
    text = other ∧ r = s := by
  induction text generalizing other with
  | nil =>
      cases other with
      | nil => exact ⟨rfl, (List.cons_eq_cons.mp h).2⟩
      | cons d other =>
          rw [quoted_cons, List.append_assoc] at h
          exact absurd h.symm (quotedAs_escapeChar d).append_ne
  | cons c text ih =>
      rw [quoted_cons, List.append_assoc] at h
      cases other with
      | nil => exact absurd h (quotedAs_escapeChar c).append_ne
      | cons d other =>
          rw [quoted_cons, List.append_assoc] at h
          obtain ⟨rfl, hrest⟩ := (quotedAs_escapeChar c).append_inj (quotedAs_escapeChar d) h
          obtain ⟨rfl, hrs⟩ := ih hrest
          exact ⟨rfl, hrs⟩

theorem toList_quoteText (s : String) :
    (quoteText s).toList = '"' :: (quoted s.toList ++ ['"']) := by
  have hfold : ∀ (cs : List Char) (out : String),
      (cs.foldl (fun out c => out ++ escapeChar ['"'] c) out).toList = out.toList ++ quoted cs := by
    intro cs
    induction cs with
    | nil => simp [quoted]
    | cons c cs ih =>
        intro out
        rw [List.foldl_cons, ih, String.toList_append, quoted_cons, List.append_assoc]
  simp [quoteText, hfold]

theorem quoteText_append_inj {a b : String}
    (h : (quoteText a).toList ++ r = (quoteText b).toList ++ s) : a = b ∧ r = s := by
  simp only [toList_quoteText, List.cons_append, List.append_assoc, List.nil_append,
    List.cons.injEq, true_and] at h
  obtain ⟨htext, hrs⟩ := quoted_append_inj h
  exact ⟨String.toList_inj.mp htext, hrs⟩

end

end Frontend.Text
