/- Decimal digits of all scripts: quoted text has them as they are. -/
import Frontend.Proofs.Text.Numeral
import Frontend.Text.Quoted
import Frontend.Text.Word
import Mathlib.Data.List.Chain

namespace Frontend.Text

/-- Both lists of ranges are walked up together, and no range of one overlaps one of the other. -/
def apart : List CodeRange → List CodeRange → Bool
  | [], _ => true
  | r :: rs, us =>
    let above := us.dropWhile (·.2 < r.1)
    above.head?.all (r.2 < ·.1) && apart rs above

/-- The ranges stand in order. -/
def Ascending (rs : List CodeRange) : Prop := rs.IsChain (·.1 ≤ ·.1)

instance (rs : List CodeRange) : Decidable (Ascending rs) :=
  inferInstanceAs (Decidable (rs.IsChain (·.1 ≤ ·.1)))

section
variable {c : Char} {rs us : List CodeRange} {r : CodeRange} {n : Nat}

theorem Ascending.le_of_mem (h : Ascending (r :: rs)) (hc : inRanges (r :: rs) c = true) :
    r.1 ≤ c.toNat := by
  obtain ⟨u, hu, hlow, _⟩ := (inRanges_eq_true_iff _ c).mp hc
  have hpairs := List.pairwise_cons.mp (List.isChain_iff_pairwise.mp h)
  rcases List.mem_cons.mp hu with rfl | hu
  · exact hlow
  · exact Nat.le_trans (hpairs.1 u hu) hlow

theorem inRanges_cons : inRanges (r :: rs) c = true ↔
    (r.1 ≤ c.toNat ∧ c.toNat ≤ r.2) ∨ inRanges rs c = true := by
  simp [inRanges, CodeRange.contains]

theorem Ascending.dropWhile (h : Ascending rs) (p : CodeRange → Bool) :
    Ascending (rs.dropWhile p) :=
  h.suffix (List.dropWhile_suffix p)

/-- A range that is passed over on the way up has no character from there on. -/
theorem inRanges_dropWhile (h : inRanges us c = true) (hlow : n ≤ c.toNat) :
    inRanges (us.dropWhile (·.2 < n)) c = true := by
  induction us with
  | nil => exact h
  | cons u us ih =>
      rw [List.dropWhile_cons]
      split
      · rename_i hlt
        rcases inRanges_cons.mp h with ⟨_, hhigh⟩ | h
        · have := of_decide_eq_true hlt
          omega
        · exact ih h
      · exact h

theorem inRanges_of_apart (h : apart rs us = true) (hrs : Ascending rs) (hus : Ascending us)
    (hc : inRanges rs c = true) : inRanges us c = false := by
  rw [← Bool.not_eq_true]
  intro hcu
  induction rs generalizing us with
  | nil => cases hc
  | cons r rs ih =>
      obtain ⟨habove, hrest⟩ := Bool.and_eq_true_iff.mp h
      have hcabove := inRanges_dropWhile hcu (hrs.le_of_mem hc)
      have hup := hus.dropWhile (·.2 < r.1)
      rcases inRanges_cons.mp hc with ⟨_, hhigh⟩ | hc
      · generalize us.dropWhile (·.2 < r.1) = above at habove hcabove hup
        cases above with
        | nil => cases hcabove
        | cons u above =>
            have hlow := hup.le_of_mem hcabove
            have hlt : r.2 < u.1 := by simpa using habove
            omega
      · exact ih hrest hrs.tail hup hc hcabove

theorem isDecimalDigit_of_isDigit (h : c.isDigit = true) : isDecimalDigit c = true := by
  have hascii : isAscii c = true := by
    have hle : c.toNat ≤ '9'.toNat := (Char.isDigit_iff_toNat.mp h).2
    exact decide_eq_true (Nat.lt_of_le_of_lt hle (by decide))
  rw [isDecimalDigit, if_pos hascii, h]

/-- Decimal digits are written as they are, in every script. -/
theorem isPlain_of_isDecimalDigit (h : isDecimalDigit c = true) : isPlain c = true := by
  have hascending : Ascending decimalDigitRanges := by decide +kernel
  unfold isDecimalDigit at h
  split at h
  · have hlow : 48 ≤ c.toNat := (Char.isDigit_iff_toNat.mp h).1
    have hhigh : c.toNat ≤ 57 := (Char.isDigit_iff_toNat.mp h).2
    have hall : ∀ k < 10, isPlain (Char.ofNat (48 + k)) = true := by decide
    have hcode : c.toNat = 48 + (c.toNat - 48) := by omega
    rw [eq_ofNat_of_toNat hcode]
    exact hall _ (by omega)
  · rename_i hascii
    have hranges := (Bool.and_eq_true_iff.mp h).1
    have hprintable : inRanges unprintableRanges c = false :=
      inRanges_of_apart (by decide +kernel) hascending (by decide +kernel) hranges
    have hextends : inRanges graphemeExtendRanges c = false :=
      inRanges_of_apart (by decide +kernel) hascending (by decide +kernel) hranges
    have hfiller : isFiller c = false :=
      inRanges_of_apart (by decide +kernel) hascending (by decide +kernel) hranges
    simp [isPlain, isPrintable, extendsGrapheme, hascii, hprintable, hextends, hfiller]

end

end Frontend.Text
