/- What two equal texts have in common at the front. -/
namespace Frontend.Text

/-- Before something that may come after it, the text of `a` is the text of `b` only if they are
the same. -/
def ReadsBack {α : Type} (text : α → List Char) (Ends : List Char → Prop) (a b : α) : Prop :=
  ∀ r s, Ends r → Ends s → text a ++ r = text b ++ s → a = b ∧ r = s

theorem ReadsBack.symm {α : Type} {text : α → List Char} {Ends : List Char → Prop} {a b : α}
    (h : ReadsBack text Ends a b) : ReadsBack text Ends b a := by
  intro r s hr hs heq
  obtain ⟨hab, hrs⟩ := h s r hs hr heq.symm
  exact ⟨hab.symm, hrs.symm⟩

/-- The signs of a list: what stands between two entries, after an entry, and after the list. -/
structure ListSigns (separator : List Char) (Ends Closes : List Char → Prop) : Prop where
  goesOn : ∀ rest, Ends (separator ++ rest)
  closes : ∀ {rest}, Closes rest → Ends rest
  apart : ∀ rest, ¬ Closes (separator ++ rest)

/-- What comes after the first entry of a list: the other entries `as`, if any, and then `r`. -/
def afterEntry {α : Type} (text : α → List Char) (separator : List Char) (as : List α)
    (r : List Char) : List Char :=
  match as with
  | [] => r
  | a :: as => separator ++ (separator.intercalate ((a :: as).map text) ++ r)

section
variable {α : Type} {text : α → List Char} {separator : List Char} {Ends Closes : List Char → Prop}

theorem intercalate_cons_append (a : α) (as : List α) (r : List Char) :
    separator.intercalate ((a :: as).map text) ++ r = text a ++ afterEntry text separator as r := by
  cases as with
  | nil => simp only [List.map_cons, List.map_nil, List.intercalate_singleton, afterEntry]
  | cons b bs =>
      simp only [List.map_cons, List.intercalate_cons_cons, List.append_assoc, afterEntry]

theorem ends_afterEntry (signs : ListSigns separator Ends Closes) {r : List Char} (hr : Closes r)
    (as : List α) : Ends (afterEntry text separator as r) := by
  cases as with
  | nil => exact signs.closes hr
  | cons a as => exact signs.goesOn _

/-- A list whose entries can be told apart can itself be told from what follows it. -/
theorem intercalate_append_inj (signs : ListSigns separator Ends Closes) {as bs : List α}
    (hread : ∀ a ∈ as, ∀ b ∈ bs, ReadsBack text Ends a b)
    (hopen : ∀ a, a ∈ as ∨ a ∈ bs → ∀ rest, ¬ Closes (text a ++ rest)) {r s : List Char}
    (hr : Closes r) (hs : Closes s)
    (h : separator.intercalate (as.map text) ++ r = separator.intercalate (bs.map text) ++ s) :
    as = bs ∧ r = s := by
  induction as generalizing bs with
  | nil =>
      cases bs with
      | nil => exact ⟨rfl, h⟩
      | cons b bs =>
          rw [intercalate_cons_append] at h
          exact absurd ((show r = _ from h) ▸ hr) (hopen b (.inr List.mem_cons_self) _)
  | cons a as ih =>
      rw [intercalate_cons_append] at h
      cases bs with
      | nil => exact absurd ((show _ = s from h) ▸ hs) (hopen a (.inl List.mem_cons_self) _)
      | cons b bs =>
          rw [intercalate_cons_append] at h
          obtain ⟨rfl, hrest⟩ := hread a List.mem_cons_self b List.mem_cons_self _ _
            (ends_afterEntry signs hr as) (ends_afterEntry signs hs bs) h
          cases as with
          | nil =>
              cases bs with
              | nil => exact ⟨rfl, hrest⟩
              | cons b' bs => exact absurd ((show r = _ from hrest) ▸ hr) (signs.apart _)
          | cons a' as =>
              cases bs with
              | nil => exact absurd ((show _ = s from hrest) ▸ hs) (signs.apart _)
              | cons b' bs =>
                  obtain ⟨htail, hrs⟩ := ih
                    (fun x hx y hy => hread x (List.mem_cons_of_mem _ hx) y
                      (List.mem_cons_of_mem _ hy))
                    (fun x hx => hopen x (hx.imp (List.mem_cons_of_mem _)
                      (List.mem_cons_of_mem _)))
                    (List.append_cancel_left hrest)
                  exact ⟨congrArg _ htail, hrs⟩

end

end Frontend.Text
