/- The text of a type is the text of no other type: each part is told from what follows it. -/
import Frontend.Proofs.Ty.Operand

namespace Frontend.Ty

open Text (ReadsBack)

/-- A type in parentheses is told from a function and from a tuple by what comes after it. -/
theorem describe_append_ne_parenthesis {t u : Ty} {r s : List Char} (ht : t.isCompound = false)
    (hs : Ends s) (hread : ∀ c ∈ t.children, ReadsBack (describe false) Closes c u) :
    t.describe false ++ r ≠ '(' :: (u.describe false ++ ')' :: s) := by
  intro heq
  have hsign : t.sign? = some '(' := sign?_eq_of_describe_eq ht (by decide) heq
  have hclose := closesList_afterParameters hsign r
  rw [describe_of_parenthesis hsign, List.cons_append, List.append_assoc] at heq
  have htail := List.tail_eq_of_cons_eq heq
  cases hp : t.parameters with
  | nil =>
      rw [hp] at htail
      rw [show t.afterParameters ++ r = _ from htail] at hclose
      exact (opens_describe u).not_closes _ (closes_of_closesList hclose)
  | cons p ps =>
      rw [hp, Text.intercalate_cons_append] at htail
      cases p with
      | none =>
          obtain ⟨c, cs, hcs, hopen⟩ := opens_describe u
          rw [hcs] at htail
          rw [← List.head_eq_of_cons_eq htail] at hopen
          exact hopen (by decide)
      | some c =>
          have hc : c ∈ t.children := mem_children_of_mem_parameters (hp ▸ List.mem_cons_self)
          obtain ⟨-, hrest⟩ := hread c hc _ _ (Text.ends_afterEntry commaSigns hclose ps)
            (by simp [Closes]) htail
          cases ps with
          | cons q qs => cases hrest
          | nil =>
              have hafter : t.afterParameters ++ r = ')' :: s := hrest
              rcases eq_function_or_tuple_of_sign hsign with
                ⟨args, result, variadic, rfl⟩ | ⟨elements, rfl⟩
              · exact not_ends_arrow _ ((List.tail_eq_of_cons_eq hafter) ▸ hs)
              · have hone : elements.length = 1 := by
                  simpa [parameters] using congrArg List.length hp
                simp [afterParameters, hone] at hafter

/-- One type of those without a composition at the top is told from the others. -/
def Simple (t : Ty) : Prop :=
  t.isCompound = false → ∀ u : Ty, u.isCompound = false → ReadsBack (describe false) Ends t u

def Whole (t : Ty) : Prop := ∀ u : Ty, ReadsBack (describe false) Closes t u

theorem simple_of_isWord {t : Ty} (h : t.isWord = true) : Simple t := by
  intro ht u hu r s hr hs heq
  have hword : u.isWord = true := by
    apply isWord_of_sign_eq_none hu
    rw [← sign?_eq_of_append_eq ht hu heq, sign?_eq_none_of_isWord h]
  obtain ⟨htext, hrs⟩ := Text.run_append_inj (isIdentifierChar_of_mem_describe h)
    (isIdentifierChar_of_mem_describe hword) (not_isIdentifierChar_of_ends hr)
    (not_isIdentifierChar_of_ends hs) heq
  exact ⟨eq_of_describe_eq_of_word (word_of_isWord h) (word_of_isWord hword) htext, hrs⟩

/-- What is known of an operand that can be told from others: its type, if it is in parentheses, or
else its form and the types in it. -/
structure Operand.Legible (o : Operand) : Prop where
  proper : o.type.isCompound = true → o.grouped = true
  whole : o.grouped = true → Whole o.type
  simple : o.grouped = false → Simple o.type
  children : o.grouped = false → ∀ c ∈ o.type.children, Whole c

/-- The text of an operand tells its type, and whether it is in parentheses. -/
theorem Operand.Legible.readsBack {o p : Operand} (ho : o.Legible)
    (hp : p.type.isCompound = true → p.grouped = true) : ReadsBack Operand.text Ends o p := by
  obtain ⟨og, o⟩ := o
  obtain ⟨pg, p⟩ := p
  intro r s hr hs heq
  cases og with
  | false =>
      have hosimple : o.isCompound = false := by simpa using ho.proper
      cases pg with
      | false =>
          have hpsimple : p.isCompound = false := by simpa using hp
          obtain ⟨rfl, hrs⟩ := ho.simple rfl hosimple p hpsimple r s hr hs heq
          exact ⟨rfl, hrs⟩
      | true =>
          rw [Operand.text_true] at heq
          exact absurd heq (describe_append_ne_parenthesis hosimple hs
            fun c hc => ho.children rfl c hc p)
  | true =>
      rw [Operand.text_true] at heq
      cases pg with
      | false =>
          have hpsimple : p.isCompound = false := by simpa using hp
          exact absurd heq.symm (describe_append_ne_parenthesis hpsimple hr
            fun c _ => (ho.whole rfl c).symm)
      | true =>
          rw [Operand.text_true] at heq
          obtain ⟨rfl, hrs⟩ := ho.whole rfl p _ _ (by simp [Closes]) (by simp [Closes])
            (List.tail_eq_of_cons_eq heq)
          exact ⟨rfl, List.tail_eq_of_cons_eq hrs⟩

/-- Everything that a type has to be told from other types by, where it is a part of another. -/
structure Legible (t : Ty) : Prop where
  simple : Simple t
  whole : Whole t
  children : ∀ c ∈ t.children, Whole c

theorem Legible.operand {t : Ty} (h : Legible t) {grouped : Bool}
    (hg : t.isCompound = true → grouped = true) : Operand.Legible ⟨grouped, t⟩ :=
  ⟨hg, fun _ => h.whole, fun _ => h.simple, fun _ => h.children⟩

theorem Legible.tailOperand {t : Ty} (h : Legible t) : (tailOperand t).Legible :=
  h.operand id

theorem simple_named (name : String) : Simple (named name) := by
  by_cases hbare : isBare name = true
  · exact simple_of_isWord hbare
  · intro ht u hu r s hr hs heq
    have hsign : u.sign? = some '`' := by
      rw [← sign?_eq_of_append_eq ht hu heq, sign?, if_neg hbare]
    obtain ⟨other, rfl⟩ := eq_named_of_sign hsign
    rw [describe_named, describe_named, if_neg hbare, (eq_tick_of_sign_named hsign).1] at heq
    obtain ⟨hname, hrs⟩ := tickName_append_inj heq
    exact ⟨congrArg named (String.toList_inj.mp hname), hrs⟩

theorem simple_var (name : String) : Simple (var name) := by
  intro ht u hu r s hr hs heq
  obtain ⟨other, rfl⟩ := eq_var_of_sign (sign?_eq_of_append_eq ht hu heq).symm
  rw [describe, describe] at heq
  obtain ⟨rfl, hrs⟩ := describeVar_append_inj (not_isIdentifierChar_of_ends hr)
    (not_isIdentifierChar_of_ends hs) heq
  exact ⟨rfl, hrs⟩

theorem simple_of_placeholder {t : Ty} (h : t ∈ placeholders) : Simple t := by
  intro ht u hu r s hr hs heq
  have hsign : t.sign? = some '<' := by
    simp only [placeholders, List.mem_cons, List.not_mem_nil, or_false] at h
    rcases h with rfl | rfl | rfl | rfl | rfl <;> rfl
  have hu' := mem_placeholders_of_sign ((sign?_eq_of_append_eq ht hu heq).symm.trans hsign)
  simp only [placeholders, List.mem_cons, List.not_mem_nil, or_false] at h hu'
  rcases h with rfl | rfl | rfl | rfl | rfl <;> rcases hu' with rfl | rfl | rfl | rfl | rfl <;>
    simp_all [describe, placeholder]

theorem simple_pointer {pointee : Ty} (h : Legible pointee) : Simple (pointer pointee) := by
  intro ht u hu r s hr hs heq
  obtain ⟨other, rfl⟩ := eq_pointer_of_sign (sign?_eq_of_append_eq ht hu heq).symm
  rw [describe, describe] at heq
  obtain ⟨hoperand, hrs⟩ := h.tailOperand.readsBack (p := tailOperand other) id r s hr hs
    (List.tail_eq_of_cons_eq heq)
  exact ⟨congrArg (pointer ·.type) hoperand, hrs⟩

theorem describeLength_append_inj {m n : Option UInt64} {r s : List Char}
    (h : describeLength m ++ ']' :: r = describeLength n ++ ']' :: s) : m = n ∧ r = s := by
  cases m with
  | none =>
      cases n with
      | none => exact ⟨rfl, List.tail_eq_of_cons_eq h⟩
      | some n => cases h
  | some m =>
      cases n with
      | none => cases h
      | some n =>
          simp only [describeLength, List.append_assoc] at h
          obtain ⟨hnumber, hrs⟩ := Text.toString_append_inj (by decide)
            (List.append_cancel_left h)
          rw [UInt64.toNat_inj.mp hnumber]
          exact ⟨rfl, hrs⟩

theorem closes_describeLength (length : Option UInt64) (rest : List Char) :
    Closes (describeLength length ++ ']' :: rest) := by
  cases length with
  | none => simp [describeLength, Closes]
  | some n => intro c hc; cases hc; decide

theorem simple_array {element : Ty} (length : Option UInt64) (h : Legible element) :
    Simple (array element length) := by
  intro ht u hu r s hr hs heq
  obtain ⟨other, length', rfl⟩ := eq_array_of_sign (sign?_eq_of_append_eq ht hu heq).symm
  rw [describe, describe] at heq
  simp only [Bool.false_eq_true, if_false, List.cons_append, List.append_assoc,
    List.nil_append] at heq
  obtain ⟨rfl, hlengths⟩ := h.whole other _ _ (closes_describeLength length r)
    (closes_describeLength length' s) (List.tail_eq_of_cons_eq heq)
  obtain ⟨rfl, hrs⟩ := describeLength_append_inj hlengths
  exact ⟨rfl, hrs⟩

theorem parameter_readsBack {p q : Option Ty} (h : ∀ c, p = some c → Whole c) :
    ReadsBack parameterText Closes p q := by
  intro r s hr hs heq
  have hdots : ∀ (t : Ty) (r s : List Char),
      parameterText none ++ r ≠ parameterText (some t) ++ s := by
    intro t r s heq
    obtain ⟨c, cs, hcs, hopen⟩ := opens_describe t
    rw [parameterText, parameterText, hcs] at heq
    rw [← List.head_eq_of_cons_eq heq] at hopen
    exact hopen (by decide)
  cases p with
  | none =>
      cases q with
      | none => exact ⟨rfl, List.append_cancel_left heq⟩
      | some d => exact absurd heq (hdots d r s)
  | some c =>
      cases q with
      | none => exact absurd heq.symm (hdots c s r)
      | some d =>
          obtain ⟨rfl, hrs⟩ := h c rfl d r s hr hs heq
          exact ⟨rfl, hrs⟩

/-- Functions and tuples are told by their entries and by what comes after these. -/
theorem simple_of_parenthesis {t : Ty} (h : t.sign? = some '(')
    (ih : ∀ c ∈ t.children, Legible c) : Simple t := by
  intro ht u hu r s hr hs heq
  have hsign : u.sign? = some '(' := (sign?_eq_of_append_eq ht hu heq).symm.trans h
  rw [describe_of_parenthesis h, describe_of_parenthesis hsign] at heq
  simp only [List.cons_append, List.append_assoc] at heq
  obtain ⟨hparameters, hafter⟩ := Text.intercalate_append_inj commaSigns
    (fun p hp q _ => parameter_readsBack fun c hc =>
      (ih c (mem_children_of_mem_parameters (hc ▸ hp))).whole)
    (fun p _ => not_closesList_parameterText p) (closesList_afterParameters h r)
    (closesList_afterParameters hsign s) (List.tail_eq_of_cons_eq heq)
  rcases eq_function_or_tuple_of_sign h with ⟨args, result, variadic, rfl⟩ | ⟨elements, rfl⟩
  · rcases eq_function_or_tuple_of_sign hsign with
      ⟨args', result', variadic', rfl⟩ | ⟨elements', rfl⟩
    · obtain ⟨rfl, rfl⟩ := parameters_function_inj hparameters
      have hresult := ih result (List.mem_append_right _ (List.mem_singleton_self result))
      simp only [afterParameters, List.append_assoc] at hafter
      obtain ⟨hoperand, hrs⟩ := hresult.tailOperand.readsBack (p := tailOperand result') id r s
        hr hs (List.append_cancel_left hafter)
      exact ⟨congrArg (function args ·.type variadic) hoperand, hrs⟩
    · exact absurd hafter (function_afterParameters_ne_tuple hs)
  · rcases eq_function_or_tuple_of_sign hsign with
      ⟨args', result', variadic', rfl⟩ | ⟨elements', rfl⟩
    · exact absurd hafter.symm (function_afterParameters_ne_tuple hr)
    · have helements : elements = elements' :=
        (List.map_inj_right fun _ _ => Option.some.inj).mp hparameters
      subst helements
      exact ⟨rfl, List.append_cancel_left hafter⟩

/-- The types that a simple type is written with tell it from all others. -/
theorem simple_of_children {t : Ty} (ih : ∀ c ∈ t.children, Legible c) : Simple t := by
  cases t with
  | named name => exact simple_named name
  | var name => exact simple_var name
  | pointer pointee => exact simple_pointer (ih pointee (List.mem_singleton_self pointee))
  | array element length =>
      exact simple_array length (ih element (List.mem_singleton_self element))
  | function args result variadic => exact simple_of_parenthesis rfl ih
  | tuple elements => exact simple_of_parenthesis rfl ih
  | error => exact simple_of_placeholder (by simp [placeholders])
  | integerLiteral => exact simple_of_placeholder (by simp [placeholders])
  | floatingLiteral => exact simple_of_placeholder (by simp [placeholders])
  | stringLiteral => exact simple_of_placeholder (by simp [placeholders])
  | nilLiteral => exact simple_of_placeholder (by simp [placeholders])
  | composition members =>
      intro ht
      cases members with
      | nil => exact simple_of_isWord rfl ht
      | cons m ms => cases ht
  | _ => exact simple_of_isWord rfl

theorem Operand.legible_of_mem {t : Ty} (hsimple : Simple t)
    (ih : ∀ c ∈ t.children, Ty.Legible c) {o : Operand} (h : o ∈ t.operands) : o.Legible := by
  rcases eq_of_mem_operands h with ⟨ht, rfl⟩ | ⟨c, hc, rfl⟩ | rfl
  · exact ⟨by simp [ht], nofun, fun _ => hsimple, fun _ c hc => (ih c hc).whole⟩
  · exact (ih c hc).operand memberOperand_proper
  · exact ⟨nofun, nofun, fun _ => simple_of_isWord rfl, fun _ => nofun⟩

theorem whole_of_simple {t : Ty} (hsimple : Simple t) (ih : ∀ c ∈ t.children, Legible c) :
    Whole t := by
  intro u r s hr hs heq
  rw [describe_eq_intercalate t, describe_eq_intercalate u] at heq
  obtain ⟨hoperands, hrs⟩ := Text.intercalate_append_inj memberSigns
    (fun o ho p hp => (Operand.legible_of_mem hsimple ih ho).readsBack (Operand.proper_of_mem hp))
    (fun o _ => (Operand.opens (opens_describe o.type)).not_closes) hr hs heq
  exact ⟨operands_inj hoperands, hrs⟩

theorem legible (t : Ty) : Legible t := by
  induction t using inductionOnChildren with
  | step t ih =>
      have hsimple := simple_of_children ih
      exact ⟨hsimple, whole_of_simple hsimple ih, fun c hc => (ih c hc).whole⟩

/-- No two types have the same text. -/
theorem eq_of_describe_eq {t u : Ty} (h : t.describe false = u.describe false) : t = u :=
  ((legible t).whole u [] [] (by simp [Closes]) (by simp [Closes]) (by simpa using h)).1

end Frontend.Ty
