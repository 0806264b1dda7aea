/- Types, their texts and their hashes: which of them are the same together. -/
import Frontend.Proofs.Ty.Erasure
import Frontend.Proofs.Ty.Legibility

namespace Frontend.Ty

theorem description_eq_iff (a b : Ty) : a.description = b.description ↔ a = b := by
  constructor
  · intro h
    exact eq_of_describe_eq (String.ofList_inj.mp h)
  · rintro rfl
    rfl

theorem erasedDescription_eq (t : Ty) : t.erasedDescription = t.withoutLengths.description :=
  congrArg String.ofList (describe_true_eq t)

theorem erasedDescription_eq_iff (a b : Ty) :
    a.erasedDescription = b.erasedDescription ↔ a.equiv b = true := by
  rw [erasedDescription_eq, erasedDescription_eq, description_eq_iff, equiv_iff]

theorem hashValue_eq_iff (hashText : String → UInt64) (a b : Ty) :
    a.hashValue hashText = b.hashValue hashText ↔
      hashText a.erasedDescription = hashText b.erasedDescription := by
  constructor
  · intro h
    simpa [hashValue] using h
  · intro h
    rw [hashValue, hashValue, h]

/-- A text is the text of one type only. Texts and hashes without the lengths of arrays are the
same for equal types only, as far as the hashes of these two texts differ when the texts do. -/
theorem description_faithful (a b : Ty) :
    (a.description = b.description ↔ a = b) ∧
      (a.erasedDescription = b.erasedDescription ↔ a.equiv b = true) ∧
      ∀ hashText : String → UInt64,
        (hashText a.erasedDescription = hashText b.erasedDescription →
          a.erasedDescription = b.erasedDescription) →
        (a.hashValue hashText = b.hashValue hashText ↔ a.equiv b = true) := by
  refine ⟨description_eq_iff a b, erasedDescription_eq_iff a b, ?_⟩
  intro hashText hdiffer
  rw [hashValue_eq_iff, ← erasedDescription_eq_iff]
  exact ⟨hdiffer, congrArg hashText⟩

/-- `*(P & Q)` and `*P & Q` are told apart, even by a hash that only counts characters. -/
theorem description_faithful_pointers :
    let a := pointer (composition [named "P", named "Q"])
    let b := composition [pointer (named "P"), named "Q"]
    a.description ≠ b.description ∧
      a.hashValue (UInt64.ofNat ·.length) ≠ b.hashValue (UInt64.ofNat ·.length) := by
  intro a b
  have hname : ∀ name ∈ ["P", "Q"], describeName name = name.toList := by decide
  have ha : a.erasedDescription = "*(P & Q)" := by
    simp [a, erasedDescription, describe, describeComposition, isCompound, isComposition, isAny,
      isOpenEnded, grouped, hname, List.intercalate_cons_cons]
  have hb : b.erasedDescription = "*P & Q" := by
    simp [b, erasedDescription, describe, describeComposition, isCompound, isComposition, isAny,
      isOpenEnded, grouped, hname, List.intercalate_cons_cons]
  obtain ⟨htext, _, hhash⟩ := description_faithful a b
  refine ⟨?_, ?_⟩
  · rw [Ne, htext]
    simp [a, b]
  · rw [Ne, hhash _ (by rw [ha, hb]; decide)]
    simp [a, b, equiv]

end Frontend.Ty
