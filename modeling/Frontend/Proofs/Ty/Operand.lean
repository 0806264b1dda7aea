/- The texts that the text of a type is put together from. -/
import Frontend.Proofs.Ty.Opening

namespace Frontend.Ty

/-- A type written within another one, in parentheses or without them. -/
structure Operand where
  grouped : Bool
  type : Ty

def Operand.text (o : Operand) : List Char := Ty.grouped o.grouped (o.type.describe false)

/-- A member of a composition, with parentheses if it goes on to the right or is one itself. -/
def memberOperand (t : Ty) : Operand := ⟨t.isOpenEnded || t.isComposition, t⟩

/-- A pointee or a result. -/
def tailOperand (t : Ty) : Operand := ⟨t.isCompound, t⟩

/-- The texts that stand between the signs of a composition; a type of any other form is one. -/
def operands : Ty → List Operand
  | composition (m :: ms) =>
    (m :: ms).map memberOperand ++ if ms.isEmpty then [⟨false, any⟩] else []
  | t => [⟨false, t⟩]

theorem eq_composition_of_isCompound {t : Ty} (h : t.isCompound = true) :
    ∃ m ms, t = composition (m :: ms) := by
  cases t with
  | composition members =>
      cases members with
      | nil => cases h
      | cons m ms => exact ⟨m, ms, rfl⟩
  | _ => cases h

theorem operands_of_simple {t : Ty} (h : t.isCompound = false) : t.operands = [⟨false, t⟩] := by
  cases t with
  | composition members =>
      cases members with
      | nil => rfl
      | cons m ms => cases h
  | _ => rfl

theorem describe_eq_intercalate (t : Ty) :
    t.describe false = " & ".toList.intercalate (t.operands.map Operand.text) := by
  cases ht : t.isCompound with
  | false =>
      rw [operands_of_simple ht]
      exact List.intercalate_singleton.symm
  | true =>
      obtain ⟨m, ms, rfl⟩ := eq_composition_of_isCompound ht
      rw [describe]
      cases ms with
      | nil =>
          simp [describeComposition, operands, memberOperand, Operand.text, grouped,
            List.intercalate_cons_cons, any, describe]
      | cons n ns =>
          simp [describeComposition, operands, memberOperand, Operand.text, Function.comp_def]

theorem Operand.opens {o : Operand} (h : Opens (o.type.describe false)) : Opens o.text := by
  unfold Operand.text Ty.grouped
  split
  · exact ⟨'(', _, rfl, by decide⟩
  · exact h

theorem opens_describe (t : Ty) : Opens (t.describe false) := by
  induction t using inductionOnChildren with
  | step t ih =>
      cases ht : t.isCompound with
      | false => exact opens_of_isCompound ht
      | true =>
          obtain ⟨m, ms, rfl⟩ := eq_composition_of_isCompound ht
          have hm : Opens (memberOperand m).text := Operand.opens (ih m List.mem_cons_self)
          rw [describe_eq_intercalate, operands, List.map_cons, List.cons_append,
            ← List.append_nil (List.intercalate _ _), Text.intercalate_cons_append]
          exact hm.append _

theorem Operand.text_true (t : Ty) (rest : List Char) :
    Operand.text ⟨true, t⟩ ++ rest = '(' :: (t.describe false ++ ')' :: rest) := by
  simp [Operand.text, Ty.grouped]

theorem isComposition_of_isCompound {t : Ty} (h : t.isCompound = true) :
    t.isComposition = true :=
  (Bool.and_eq_true_iff.mp h).1

theorem memberOperand_proper {t : Ty} (h : t.isCompound = true) :
    (memberOperand t).grouped = true := by
  simp [memberOperand, isComposition_of_isCompound h]

theorem two_le_length_operands {t : Ty} (h : t.isCompound = true) : 2 ≤ t.operands.length := by
  obtain ⟨m, ms, rfl⟩ := eq_composition_of_isCompound h
  cases ms <;> simp [operands]

theorem memberOperand_inj {m n : Ty} (h : memberOperand m = memberOperand n) : m = n :=
  congrArg Operand.type h

theorem memberOperand_ne_any (m : Ty) : memberOperand m ≠ ⟨false, any⟩ := by
  intro h
  obtain rfl : m = any := congrArg Operand.type h
  cases h

/-- The members of a composition are told from the `Any` beside a single one. -/
theorem composition_operands_inj {m n : Ty} {ms ns : List Ty}
    (h : (composition (m :: ms)).operands = (composition (n :: ns)).operands) :
    m :: ms = n :: ns := by
  cases ms with
  | nil =>
      cases ns with
      | nil => rw [memberOperand_inj (List.head_eq_of_cons_eq h)]
      | cons n' ns =>
          have hany := List.head_eq_of_cons_eq (List.tail_eq_of_cons_eq h)
          exact absurd hany.symm (memberOperand_ne_any n')
  | cons m' ms =>
      cases ns with
      | nil =>
          have hany := List.head_eq_of_cons_eq (List.tail_eq_of_cons_eq h)
          exact absurd hany (memberOperand_ne_any m')
      | cons n' ns =>
          simp only [operands, List.isEmpty_cons, Bool.false_eq_true, if_false,
            List.append_nil] at h
          exact (List.map_inj_right fun _ _ => memberOperand_inj).mp h

/-- The operands tell a composition from other types. -/
theorem operands_inj {t u : Ty} (h : t.operands = u.operands) : t = u := by
  have hlength := congrArg List.length h
  cases ht : t.isCompound with
  | false =>
      cases hu : u.isCompound with
      | false =>
          rw [operands_of_simple ht, operands_of_simple hu] at h
          exact congrArg Operand.type (List.head_eq_of_cons_eq h)
      | true =>
          have := two_le_length_operands hu
          rw [operands_of_simple ht, List.length_singleton] at hlength
          omega
  | true =>
      cases hu : u.isCompound with
      | false =>
          have := two_le_length_operands ht
          rw [operands_of_simple hu, List.length_singleton] at hlength
          omega
      | true =>
          obtain ⟨m, ms, rfl⟩ := eq_composition_of_isCompound ht
          obtain ⟨n, ns, rfl⟩ := eq_composition_of_isCompound hu
          exact congrArg composition (composition_operands_inj h)

theorem eq_of_mem_operands {t : Ty} {o : Operand} (h : o ∈ t.operands) :
    (t.isCompound = false ∧ o = ⟨false, t⟩) ∨ (∃ c ∈ t.children, o = memberOperand c) ∨
      o = ⟨false, any⟩ := by
  cases ht : t.isCompound with
  | false =>
      rw [operands_of_simple ht] at h
      exact .inl ⟨rfl, List.mem_singleton.mp h⟩
  | true =>
      obtain ⟨m, ms, rfl⟩ := eq_composition_of_isCompound ht
      rcases List.mem_append.mp h with h | h
      · obtain ⟨c, hc, rfl⟩ := List.mem_map.mp h
        exact .inr (.inl ⟨c, hc, rfl⟩)
      · cases ms with
        | nil => exact .inr (.inr (List.mem_singleton.mp h))
        | cons m' ms => cases h

theorem Operand.proper_of_mem {t : Ty} {o : Operand} (h : o ∈ t.operands)
    (hc : o.type.isCompound = true) : o.grouped = true := by
  rcases eq_of_mem_operands h with ⟨ht, rfl⟩ | ⟨c, _, rfl⟩ | rfl
  · exact absurd hc (by simp [ht])
  · exact memberOperand_proper hc
  · cases hc

/-- An entry of the arguments of a function or the elements of a tuple; none stands for the dots. -/
def parameterText : Option Ty → List Char
  | none => "...".toList
  | some t => t.describe false

def parameters : Ty → List (Option Ty)
  | function args _ variadic => args.map some ++ if variadic then [none] else []
  | tuple elements => elements.map some
  | _ => []

/-- What closes the arguments of a function or the elements of a tuple. -/
def afterParameters : Ty → List Char
  | function _ result _ => ") -> ".toList ++ (tailOperand result).text
  | tuple elements => if elements.length = 1 then ",)".toList else ")".toList
  | _ => []

theorem describe_of_parenthesis {t : Ty} (h : t.sign? = some '(') :
    t.describe false =
      '(' :: (", ".toList.intercalate (t.parameters.map parameterText) ++ t.afterParameters) := by
  rcases eq_function_or_tuple_of_sign h with ⟨args, result, variadic, rfl⟩ | ⟨elements, rfl⟩
  · have htexts : (parameters (function args result variadic)).map parameterText =
        if variadic then args.map (describe false) ++ ["...".toList]
        else args.map (describe false) := by
      cases variadic <;> simp [parameters, parameterText]
    rw [htexts, describe, describeArguments, commaSeparated]
    simp [afterParameters, tailOperand, Operand.text]
  · have htexts : (parameters (tuple elements)).map parameterText =
        elements.map (describe false) := by
      simp [parameters, parameterText]
    rw [htexts, describe, describeTuple, commaSeparated, List.length_map]
    rfl

theorem closesList_afterParameters {t : Ty} (h : t.sign? = some '(') (rest : List Char) :
    ClosesList (t.afterParameters ++ rest) := by
  rcases eq_function_or_tuple_of_sign h with ⟨args, result, variadic, rfl⟩ | ⟨elements, rfl⟩
  · exact .inl ⟨_, rfl⟩
  · by_cases hone : elements.length = 1 <;> simp [afterParameters, hone, ClosesList]

theorem mem_children_of_mem_parameters {t c : Ty} (h : some c ∈ t.parameters) :
    c ∈ t.children := by
  cases t with
  | function args result variadic =>
      have hc : c ∈ args := by cases variadic <;> simpa [parameters] using h
      exact List.mem_append_left _ hc
  | tuple elements => simpa [parameters, children] using h
  | _ => cases h

theorem not_closesList_parameterText (p : Option Ty) (rest : List Char) :
    ¬ ClosesList (parameterText p ++ rest) := by
  cases p with
  | none => simp [parameterText, ClosesList]
  | some t => exact fun h => (opens_describe t).not_closes rest (closes_of_closesList h)

theorem parameters_function_inj {args args' : List Ty} {result result' : Ty}
    {variadic variadic' : Bool} (h : (function args result variadic).parameters =
      (function args' result' variadic').parameters) : args = args' ∧ variadic = variadic' := by
  have hvariadic : ∀ args result variadic,
      none ∈ (function args result variadic).parameters ↔ variadic = true := by
    intro args result variadic
    cases variadic <;> simp [parameters]
  have hsame : variadic = variadic' := by
    rw [Bool.eq_iff_iff, ← hvariadic args result, ← hvariadic args' result', h]
  subst hsame
  exact ⟨(List.map_inj_right fun _ _ => Option.some.inj).mp (List.append_cancel_right h), rfl⟩

theorem function_afterParameters_ne_tuple {args elements : List Ty} {result : Ty}
    {variadic : Bool} {r s : List Char} (hs : Ends s) :
    (function args result variadic).afterParameters ++ r ≠
      (tuple elements).afterParameters ++ s := by
  intro h
  by_cases hone : elements.length = 1
  · simp [afterParameters, hone] at h
  · simp only [afterParameters, hone, if_false] at h
    obtain ⟨more, rfl⟩ : ∃ more, s = ' ' :: '-' :: more :=
      ⟨_, (List.tail_eq_of_cons_eq h).symm⟩
    exact not_ends_arrow more hs

end Frontend.Ty
