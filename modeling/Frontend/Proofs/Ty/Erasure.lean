/- Types without the lengths of their arrays, which equality and hashes leave out. -/
import Frontend.Ty.Description
import Frontend.Ty.Equivalence

namespace Frontend.Ty

/-- The type with no array of a fixed length in it. -/
def withoutLengths (t : Ty) : Ty :=
  match t with
  | array element _ => array element.withoutLengths none
  | t => t.mapChildrenMem fun c _h => c.withoutLengths
termination_by sizeOf t
decreasing_by
  · simp only [array.sizeOf_spec]; omega
  · exact sizeOf_lt_of_mem_children _h

theorem withoutLengths_array (element : Ty) (length : Option UInt64) :
    (array element length).withoutLengths = array element.withoutLengths none := by
  rw [withoutLengths]

theorem withoutLengths_eq_mapChildren {t : Ty} (ht : ∀ element length, t ≠ array element length) :
    t.withoutLengths = t.mapChildren withoutLengths := by
  cases t with
  | array element length => exact absurd rfl (ht element length)
  | _ => rw [withoutLengths]; exact mapChildrenMem_eq _ _; simp

theorem withoutLengths_function (args : List Ty) (result : Ty) (variadic : Bool) :
    (function args result variadic).withoutLengths =
      function (args.map withoutLengths) result.withoutLengths variadic :=
  withoutLengths_eq_mapChildren nofun

theorem withoutLengths_pointer (pointee : Ty) :
    (pointer pointee).withoutLengths = pointer pointee.withoutLengths :=
  withoutLengths_eq_mapChildren nofun

theorem withoutLengths_tuple (elements : List Ty) :
    (tuple elements).withoutLengths = tuple (elements.map withoutLengths) :=
  withoutLengths_eq_mapChildren nofun

theorem withoutLengths_composition (members : List Ty) :
    (composition members).withoutLengths = composition (members.map withoutLengths) :=
  withoutLengths_eq_mapChildren nofun

@[simp] theorem isComposition_withoutLengths (t : Ty) :
    t.withoutLengths.isComposition = t.isComposition := by
  cases t with
  | array element length => rw [withoutLengths_array]; rfl
  | _ => rw [withoutLengths_eq_mapChildren (by simp)]; rfl

@[simp] theorem isCompound_withoutLengths (t : Ty) :
    t.withoutLengths.isCompound = t.isCompound := by
  cases t with
  | array element length => rw [withoutLengths_array]; rfl
  | composition members =>
      rw [withoutLengths_composition]
      cases members <;> rfl
  | _ => rw [withoutLengths_eq_mapChildren (by simp)]; rfl

@[simp] theorem isOpenEnded_withoutLengths (t : Ty) :
    t.withoutLengths.isOpenEnded = t.isOpenEnded := by
  induction t using inductionOnChildren with
  | step t ih =>
      cases t with
      | array element length => rw [withoutLengths_array]; rfl
      | pointer pointee =>
          rw [withoutLengths_pointer]
          exact ih pointee (List.mem_singleton_self pointee)
      | _ => rw [withoutLengths_eq_mapChildren (by simp)]; rfl

/-- Leaving the lengths out of the text is leaving them out of the type. -/
theorem describe_true_eq (t : Ty) : t.describe true = t.withoutLengths.describe false := by
  induction t using inductionOnChildren with
  | step t ih =>
      cases t with
      | function args result variadic =>
          have hargs : ∀ a ∈ args, a.describe true = a.withoutLengths.describe false :=
            fun a ha => ih a (List.mem_append_left _ ha)
          have hresult := ih result (List.mem_append_right _ (List.mem_singleton_self result))
          simp [withoutLengths_function, describe, hresult, List.map_congr_left hargs,
            Function.comp_def]
      | pointer pointee =>
          have h := ih pointee (List.mem_singleton_self pointee)
          simp [withoutLengths_pointer, describe, h]
      | array element length =>
          have h := ih element (List.mem_singleton_self element)
          simp [withoutLengths_array, describe, describeLength, h]
      | tuple elements =>
          have helements : ∀ c ∈ elements, c.describe true = c.withoutLengths.describe false := ih
          simp [withoutLengths_tuple, describe, List.map_congr_left helements, Function.comp_def]
      | composition members =>
          have hmembers : ∀ c ∈ members,
              grouped (c.isOpenEnded || c.isComposition) (c.describe true) =
                grouped (c.isOpenEnded || c.isComposition) (c.withoutLengths.describe false) :=
            fun c hc => congrArg _ (ih c hc)
          simp [withoutLengths_composition, describe, List.map_congr_left hmembers,
            Function.comp_def]
      | _ => rw [withoutLengths_eq_mapChildren (by simp)]; simp [mapChildren, describe]

theorem children_mapChildren (f : Ty → Ty) (t : Ty) :
    (t.mapChildren f).children = t.children.map f := by
  cases t with
  | function args result variadic => simp [mapChildren, children]
  | _ => rfl

theorem children_withoutLengths (t : Ty) :
    t.withoutLengths.children = t.children.map withoutLengths := by
  cases t with
  | array element length => rw [withoutLengths_array]; rfl
  | _ => rw [withoutLengths_eq_mapChildren (by simp)]; exact children_mapChildren _ _

theorem withoutLengths_eq_self {t : Ty} (h : t.children = []) : t.withoutLengths = t := by
  cases t with
  | function args result variadic => exact absurd h (by simp [children])
  | pointer pointee => cases h
  | array element length => cases h
  | tuple elements => cases h; exact withoutLengths_tuple []
  | composition members => cases h; exact withoutLengths_composition []
  | _ => rw [withoutLengths_eq_mapChildren (by simp)]; rfl

/-- A type with no types in it is known from its form without lengths. -/
theorem eq_of_withoutLengths_eq {a b : Ty} (ha : a.children = [])
    (h : a.withoutLengths = b.withoutLengths) : a = b := by
  have hb : b.children = [] := by
    have := congrArg children h
    rw [children_withoutLengths, children_withoutLengths, ha] at this
    exact List.map_eq_nil_iff.mp this.symm
  rwa [withoutLengths_eq_self ha, withoutLengths_eq_self hb] at h

theorem equivAll_self {ts : List Ty} (h : ∀ t ∈ ts, t.equiv t = true) :
    equivAll ts ts = true := by
  induction ts with
  | nil => rfl
  | cons t ts ih =>
      have hts := ih fun u hu => h u (List.mem_cons_of_mem t hu)
      simp [equivAll, h t List.mem_cons_self, hts]

theorem equiv_self (t : Ty) : t.equiv t = true := by
  induction t using inductionOnChildren with
  | step t ih =>
      cases t with
      | function args result variadic =>
          have hargs := equivAll_self fun a ha => ih a (List.mem_append_left _ ha)
          have hresult := ih result (List.mem_append_right _ (List.mem_singleton_self result))
          simp [equiv, hargs, hresult]
      | pointer pointee => exact ih pointee (List.mem_singleton_self pointee)
      | array element length => exact ih element (List.mem_singleton_self element)
      | tuple elements => exact equivAll_self ih
      | composition members => exact equivAll_self ih
      | _ => simp [equiv]

theorem withoutLengths_eq_of_equiv (a b : Ty) (h : a.equiv b = true) :
    a.withoutLengths = b.withoutLengths := by
  induction a, b using equiv.induct
    (motive_2 := fun as bs => equivAll as bs = true →
      as.map withoutLengths = bs.map withoutLengths) with
  | case12 args₁ result₁ variadic₁ args₂ result₂ variadic₂ ihArgs ihResult =>
      simp only [equiv, Bool.and_eq_true, beq_iff_eq] at h
      obtain ⟨⟨hargs, hresult⟩, rfl⟩ := h
      rw [withoutLengths_function, withoutLengths_function, ihArgs hargs, ihResult hresult]
  | case13 a b ih => rw [withoutLengths_pointer, withoutLengths_pointer, ih h]
  | case14 a _ b _ ih => rw [withoutLengths_array, withoutLengths_array, ih h]
  | case15 as bs ih => rw [withoutLengths_tuple, withoutLengths_tuple, ih h]
  | case16 as bs ih => rw [withoutLengths_composition, withoutLengths_composition, ih h]
  | case18 => rfl
  | case19 a as b bs ih ihAll =>
      rename_i hall
      simp only [equivAll, Bool.and_eq_true] at hall
      simp [ih hall.1, ihAll hall.2]
  | case17 => simp [equiv, *] at h
  | case20 => rename_i hall; simp [equivAll, *] at hall
  | _ => simp_all [equiv]

theorem equivAll_of_map_eq {as bs : List Ty}
    (ih : ∀ a ∈ as, ∀ b, a.withoutLengths = b.withoutLengths → a.equiv b = true)
    (h : as.map withoutLengths = bs.map withoutLengths) : equivAll as bs = true := by
  induction as generalizing bs with
  | nil => cases List.map_eq_nil_iff.mp h.symm; rfl
  | cons a as ihAll =>
      cases bs with
      | nil => cases h
      | cons b bs =>
          simp only [List.map_cons, List.cons.injEq] at h
          have hall := ihAll (fun x hx => ih x (List.mem_cons_of_mem a hx)) h.2
          simp [equivAll, ih a List.mem_cons_self b h.1, hall]

/-- Two types of one form: what stands right below them is the same but for the lengths in it. -/
inductive SameForm : Ty → Ty → Prop where
  | leaf {t} (h : t.children = []) : SameForm t t
  | function {args args' result result' variadic}
      (hargs : args.map withoutLengths = args'.map withoutLengths)
      (hresult : result.withoutLengths = result'.withoutLengths) :
      SameForm (function args result variadic) (function args' result' variadic)
  | pointer {a b} (hpointee : a.withoutLengths = b.withoutLengths) :
      SameForm (pointer a) (pointer b)
  | array {a b length length'} (helement : a.withoutLengths = b.withoutLengths) :
      SameForm (array a length) (array b length')
  | tuple {as bs} (helements : as.map withoutLengths = bs.map withoutLengths) :
      SameForm (tuple as) (tuple bs)
  | composition {as bs} (hmembers : as.map withoutLengths = bs.map withoutLengths) :
      SameForm (composition as) (composition bs)

theorem sameForm_of_withoutLengths_eq {a b : Ty} (h : a.withoutLengths = b.withoutLengths) :
    SameForm a b := by
  cases a with
  | function args result variadic =>
      cases b with
      | function args' result' variadic' =>
          simp only [withoutLengths_function, function.injEq] at h
          obtain ⟨hargs, hresult, rfl⟩ := h
          exact .function hargs hresult
      | _ => simp [withoutLengths_array, withoutLengths_eq_mapChildren, mapChildren] at h
  | pointer pointee =>
      cases b with
      | pointer pointee' =>
          simp only [withoutLengths_pointer, pointer.injEq] at h
          exact .pointer h
      | _ => simp [withoutLengths_array, withoutLengths_eq_mapChildren, mapChildren] at h
  | array element length =>
      cases b with
      | array element' length' =>
          simp only [withoutLengths_array, array.injEq, and_true] at h
          exact .array h
      | _ => simp [withoutLengths_array, withoutLengths_eq_mapChildren, mapChildren] at h
  | tuple elements =>
      cases b with
      | tuple elements' =>
          simp only [withoutLengths_tuple, tuple.injEq] at h
          exact .tuple h
      | _ => simp [withoutLengths_array, withoutLengths_eq_mapChildren, mapChildren] at h
  | composition members =>
      cases b with
      | composition members' =>
          simp only [withoutLengths_composition, composition.injEq] at h
          exact .composition h
      | _ => simp [withoutLengths_array, withoutLengths_eq_mapChildren, mapChildren] at h
  | _ => exact eq_of_withoutLengths_eq rfl h ▸ .leaf rfl

theorem equiv_of_withoutLengths_eq (a b : Ty) (h : a.withoutLengths = b.withoutLengths) :
    a.equiv b = true := by
  induction a using inductionOnChildren generalizing b with
  | step a ih =>
      cases sameForm_of_withoutLengths_eq h with
      | leaf => exact equiv_self _
      | function hargs hresult =>
          have hall := equivAll_of_map_eq (fun a ha => ih a (List.mem_append_left _ ha)) hargs
          have hone := ih _ (List.mem_append_right _ (List.mem_singleton_self _)) _ hresult
          simp [equiv, hall, hone]
      | pointer hpointee => exact ih _ (List.mem_singleton_self _) _ hpointee
      | array helement => exact ih _ (List.mem_singleton_self _) _ helement
      | tuple helements => exact equivAll_of_map_eq ih helements
      | composition hmembers => exact equivAll_of_map_eq ih hmembers

/-- Equality of types is equality but for the lengths of arrays. -/
theorem equiv_iff (a b : Ty) : a.equiv b = true ↔ a.withoutLengths = b.withoutLengths :=
  ⟨withoutLengths_eq_of_equiv a b, equiv_of_withoutLengths_eq a b⟩

end Frontend.Ty
