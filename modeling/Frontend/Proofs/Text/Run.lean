/- Runs of characters of one kind at the start of a text, or at its end. -/
import Frontend.Text.Cut
import Mathlib.Data.List.TakeWhile

namespace Frontend.Text

theorem takeWhile_eq_nil_of_head {p : Char → Bool} {text : List Char}
    (h : ∀ c ∈ text.head?, p c = false) : text.takeWhile p = [] := by
  cases text with
  | nil => rfl
  | cons c cs => simp [h c rfl]

theorem dropWhile_eq_self_of_head {p : Char → Bool} {text : List Char}
    (h : ∀ c ∈ text.head?, p c = false) : text.dropWhile p = text := by
  cases text with
  | nil => rfl
  | cons c cs => simp [h c rfl]

/-- A run ends before a character of another kind. -/
theorem takeWhile_append_of_head {p : Char → Bool} {run rest : List Char}
    (hrun : ∀ c ∈ run, p c = true) (hrest : ∀ c ∈ rest.head?, p c = false) :
    (run ++ rest).takeWhile p = run := by
  rw [List.takeWhile_append_of_pos hrun, takeWhile_eq_nil_of_head hrest, List.append_nil]

theorem dropWhile_append_of_head {p : Char → Bool} {run rest : List Char}
    (hrun : ∀ c ∈ run, p c = true) (hrest : ∀ c ∈ rest.head?, p c = false) :
    (run ++ rest).dropWhile p = rest := by
  rw [List.dropWhile_append_of_pos hrun, dropWhile_eq_self_of_head hrest]

theorem head_dropWhile {p : Char → Bool} (text : List Char) :
    ∀ c ∈ (text.dropWhile p).head?, p c = false := by
  intro c hc
  have h := List.head?_dropWhile_not p text
  rw [Option.mem_def.mp hc] at h
  simpa using h

/-- What is trimmed off the end of a text is a run, and the character before it is of another
kind. -/
theorem exists_trimEnd_append (p : Char → Bool) (text : List Char) :
    ∃ run, text = trimEnd p text ++ run ∧ (∀ c ∈ run, p c = true) ∧
      ∀ c ∈ (trimEnd p text).getLast?, p c = false := by
  refine ⟨(text.reverse.takeWhile p).reverse, ?_, ?_, ?_⟩
  · rw [trimEnd, ← List.reverse_append, List.takeWhile_append_dropWhile, List.reverse_reverse]
  · intro c hc
    exact List.mem_takeWhile_imp (List.mem_reverse.mp hc)
  · rw [trimEnd, List.getLast?_reverse]
    exact head_dropWhile text.reverse

theorem trimStart_eq_iff {p : Char → Bool} {text rest : List Char} :
    trimStart p text = rest ↔ ∃ run, text = run ++ rest ∧ (∀ c ∈ run, p c = true) ∧
      ∀ c ∈ rest.head?, p c = false := by
  constructor
  · rintro rfl
    exact ⟨text.takeWhile p, List.takeWhile_append_dropWhile.symm,
      fun _ => List.mem_takeWhile_imp, head_dropWhile text⟩
  · rintro ⟨run, rfl, hrun, hrest⟩
    exact dropWhile_append_of_head hrun hrest

theorem trimEnd_eq_iff {p : Char → Bool} {text rest : List Char} :
    trimEnd p text = rest ↔ ∃ run, text = rest ++ run ∧ (∀ c ∈ run, p c = true) ∧
      ∀ c ∈ rest.getLast?, p c = false := by
  constructor
  · rintro rfl
    exact exists_trimEnd_append p text
  · rintro ⟨run, rfl, hrun, hrest⟩
    have hrun' : ∀ c ∈ run.reverse, p c = true := fun c hc => hrun c (List.mem_reverse.mp hc)
    rw [← List.head?_reverse] at hrest
    rw [trimEnd, List.reverse_append, dropWhile_append_of_head hrun' hrest, List.reverse_reverse]

/-- A run of characters of one kind is told by what follows it, which is of another kind. -/
theorem run_append_inj {p : Char → Bool} {x y r s : List Char} (hx : ∀ c ∈ x, p c = true)
    (hy : ∀ c ∈ y, p c = true) (hr : ∀ c ∈ r.head?, p c = false)
    (hs : ∀ c ∈ s.head?, p c = false) (h : x ++ r = y ++ s) : x = y ∧ r = s := by
  have hxy : x = y := by
    have hrun := congrArg (List.takeWhile p) h
    rwa [takeWhile_append_of_head hx hr, takeWhile_append_of_head hy hs] at hrun
  subst hxy
  exact ⟨rfl, List.append_cancel_left h⟩

theorem toList_toString (n : Nat) : (toString n).toList = Nat.toDigits 10 n := by
  rw [Nat.toString_eq_ofList_toDigits, String.toList_ofList]

theorem isDigit_of_mem_toDigits {n : Nat} {c : Char} (h : c ∈ Nat.toDigits 10 n) :
    c.isDigit = true :=
  Nat.isDigit_of_mem_toDigits (by decide) (by decide) h

theorem toDigits_inj {m n : Nat} (h : Nat.toDigits 10 m = Nat.toDigits 10 n) : m = n := by
  have hvalue := congrArg (Nat.ofDigitChars 10 · 0) h
  simpa only [Nat.ofDigitChars_ten_toDigits] using hvalue

/-- A number is told by what follows it, which is no digit. -/
theorem toString_append_inj {m n : Nat} {c : Char} {r s : List Char} (hc : c.isDigit = false)
    (h : (toString m).toList ++ c :: r = (toString n).toList ++ c :: s) : m = n ∧ r = s := by
  rw [toList_toString, toList_toString] at h
  obtain ⟨hdigits, hrest⟩ := run_append_inj (fun _ => isDigit_of_mem_toDigits)
    (fun _ => isDigit_of_mem_toDigits) (by simpa using hc) (by simpa using hc) h
  exact ⟨toDigits_inj hdigits, (List.cons_eq_cons.mp hrest).2⟩

end Frontend.Text
