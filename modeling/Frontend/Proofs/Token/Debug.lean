/- The texts of tokens as constructors: they tell the token, and their listing tells the list. -/
import Frontend.Lexer.Chunk
import Frontend.Proofs.Text.Cancel
import Frontend.Proofs.Text.Quoted

namespace Frontend

/-- Each value of a list has a name of letters that no earlier one has. -/
structure Named {α : Type} (all : List α) (name : α → String) : Prop where
  found : ∀ a, all.find? (name · == name a) = some a
  letters : ∀ a, ∀ c ∈ (name a).toList, c.isAlpha = true

theorem Operator.named : Named all name where
  found op := by cases op <;> rfl
  letters op := by rw [← List.all_eq_true]; cases op <;> decide

theorem Punctuation.named : Named all name where
  found p := by cases p <;> rfl
  letters p := by rw [← List.all_eq_true]; cases p <;> decide

theorem Keyword.named : Named all name where
  found k := by cases k <;> rfl
  letters k := by rw [← List.all_eq_true]; cases k <;> decide

theorem Directive.named : Named all name where
  found d := by cases d <;> rfl
  letters d := by rw [← List.all_eq_true]; cases d <;> decide

section
variable {α : Type} {all : List α} {name : α → String} {a b : α} {r s : List Char}

theorem Named.append_inj (h : Named all name)
    (heq : (name a).toList ++ ')' :: r = (name b).toList ++ ')' :: s) : a = b ∧ r = s := by
  obtain ⟨hname, hrest⟩ := Text.run_append_inj (h.letters a) (h.letters b) (by simp) (by simp) heq
  have hfound := h.found a
  rw [String.toList_inj.mp hname, h.found b] at hfound
  exact ⟨(Option.some.inj hfound).symm, (List.cons_eq_cons.mp hrest).2⟩

end

/-- Behind the same word, what stands in parentheses is compared. -/
theorem enclosed_append {word x y : String} {r s : List Char}
    (h : (word ++ x ++ ")").toList ++ r = (word ++ y ++ ")").toList ++ s) :
    x.toList ++ ')' :: r = y.toList ++ ')' :: s := by
  simpa [String.toList_append] using h

namespace Token

/-- The end of the text of a token is told without looking further. -/
theorem debug_append_inj {a b : Token} {r s : List Char}
    (h : a.debug.toList ++ r = b.debug.toList ++ s) : a = b ∧ r = s := by
  cases a with
  | number raw value =>
      cases b with
      | number raw' value' =>
          simp only [debug, String.toList_append, List.append_assoc] at h
          obtain ⟨rfl, hvalue⟩ := Text.quoteText_append_inj (List.append_cancel_left h)
          obtain ⟨hnumber, hrest⟩ := Text.toString_append_inj (by decide)
            (List.append_cancel_left hvalue)
          cases UInt64.toNat_inj.mp hnumber
          exact ⟨rfl, List.append_cancel_left (List.cons_eq_cons.mp hrest).2⟩
      | _ => simp [debug] at h
  | name text =>
      cases b with
      | name text' =>
          obtain ⟨rfl, hrest⟩ := Text.quoteText_append_inj (enclosed_append h)
          exact ⟨rfl, (List.cons_eq_cons.mp hrest).2⟩
      | _ => simp [debug] at h
  | unknown text =>
      cases b with
      | unknown text' =>
          obtain ⟨rfl, hrest⟩ := Text.quoteText_append_inj (enclosed_append h)
          exact ⟨rfl, (List.cons_eq_cons.mp hrest).2⟩
      | _ => simp [debug] at h
  | char value =>
      cases b with
      | char value' =>
          obtain ⟨hnumber, hrest⟩ := Text.toString_append_inj (by decide) (enclosed_append h)
          cases UInt8.toNat_inj.mp hnumber
          exact ⟨rfl, hrest⟩
      | _ => simp [debug] at h
  | string text =>
      cases b with
      | string text' =>
          obtain ⟨rfl, hrest⟩ := Text.quoteText_append_inj (enclosed_append h)
          exact ⟨rfl, (List.cons_eq_cons.mp hrest).2⟩
      | _ => simp [debug] at h
  | operator op =>
      cases b with
      | operator op' =>
          obtain ⟨rfl, hrest⟩ := Operator.named.append_inj (enclosed_append h)
          exact ⟨rfl, hrest⟩
      | _ => simp [debug] at h
  | punctuation p =>
      cases b with
      | punctuation p' =>
          obtain ⟨rfl, hrest⟩ := Punctuation.named.append_inj (enclosed_append h)
          exact ⟨rfl, hrest⟩
      | _ => simp [debug] at h
  | keyword k =>
      cases b with
      | keyword k' =>
          obtain ⟨rfl, hrest⟩ := Keyword.named.append_inj (enclosed_append h)
          exact ⟨rfl, hrest⟩
      | _ => simp [debug] at h
  | directive d =>
      cases b with
      | directive d' =>
          obtain ⟨rfl, hrest⟩ := Directive.named.append_inj (enclosed_append h)
          exact ⟨rfl, hrest⟩
      | _ => simp [debug] at h
  | endOfFile =>
      cases b with
      | endOfFile => exact ⟨rfl, List.append_cancel_left h⟩
      | _ => simp [debug] at h

theorem debug_append_ne (t : Token) (r s : List Char) : t.debug.toList ++ r ≠ ']' :: s := by
  cases t <;> simp [debug]

end Token

/-- Tokens in brackets, without their places. -/
def listing (ts : List Token) : String :=
  "[" ++ String.intercalate ", " (ts.map Token.debug) ++ "]"

theorem toList_listing (ts : List Token) :
    (listing ts).toList = '[' :: ([',', ' '].intercalate (ts.map (·.debug.toList)) ++ [']']) := by
  simp [listing, String.toList_intercalate, Function.comp_def]

theorem tokenSigns : Text.ListSigns [',', ' '] (fun _ => True) (∃ s, · = ']' :: s) where
  goesOn _ := trivial
  closes _ := trivial
  apart rest := by simp

/-- Tokens are told from their listing. -/
theorem listing_inj {ts us : List Token} (h : listing ts = listing us) : ts = us := by
  have htext := congrArg String.toList h
  rw [toList_listing, toList_listing] at htext
  refine (Text.intercalate_append_inj tokenSigns ?_ ?_ ⟨[], rfl⟩ ⟨[], rfl⟩
    (List.cons_eq_cons.mp htext).2).1
  · intro a _ b _ r s _ _ heq
    exact Token.debug_append_inj heq
  · rintro a _ rest ⟨s, hs⟩
    exact a.debug_append_ne rest s hs

end Frontend
