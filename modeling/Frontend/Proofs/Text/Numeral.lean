/- What a numeral stands for: digits of a radix up to sixteen, the most significant one first. -/
import Frontend.Text.Numeral
import Mathlib.Data.List.Forall2
import Mathlib.Data.Nat.Digits.Defs

namespace Frontend.Text

/-- The character is the digit `d`; from ten on, a letter of either case is. -/
def IsDigit (radix : Nat) (c : Char) (d : Nat) : Prop :=
  d < radix ∧ (c = d.digitChar ∨ c = d.digitChar.toUpper)

/-- The characters are digits, at least one, and stand for the number `n`. -/
def Denotes (radix : Nat) (cs : List Char) (n : Nat) : Prop :=
  cs ≠ [] ∧ ∃ ds, List.Forall₂ (IsDigit radix) cs ds ∧ Nat.ofDigits radix ds.reverse = n

/-- Read on from the number `acc`, the digits lead to the number `n`. -/
def GoesOn (radix acc : Nat) (cs : List Char) (n : Nat) : Prop :=
  ∃ ds, List.Forall₂ (IsDigit radix) cs ds ∧
    acc * radix ^ cs.length + Nat.ofDigits radix ds.reverse = n

section
variable {radix limit acc n d e : Nat} {c : Char} {cs : List Char}

theorem eq_ofNat_of_toNat (h : c.toNat = n) : c = Char.ofNat n := by
  rw [← h, Char.ofNat_toNat]

theorem isDigit_of_digitValue? (h : digitValue? 16 c = some d) : IsDigit 16 c d := by
  have hfigure : ∀ k < 10, Char.ofNat (48 + k) = k.digitChar := by decide
  have hsmall : ∀ k < 16, 10 ≤ k → Char.ofNat (87 + k) = k.digitChar := by decide
  have hcapital : ∀ k < 16, 10 ≤ k → Char.ofNat (55 + k) = k.digitChar.toUpper := by decide
  obtain ⟨hvalue, hlt⟩ := Option.filter_eq_some_iff.mp h
  have hlt : d < 16 := of_decide_eq_true hlt
  refine ⟨hlt, ?_⟩
  split at hvalue
  · rename_i hc
    obtain ⟨hlow, hhigh⟩ : 48 ≤ c.toNat ∧ c.toNat ≤ 57 := hc
    have hd : c.toNat - 48 = d := Option.some.inj hvalue
    have hcode : c.toNat = 48 + d := by omega
    exact .inl ((eq_ofNat_of_toNat hcode).trans (hfigure d (by omega)))
  · split at hvalue
    · rename_i hc
      obtain ⟨hlow, _⟩ : 97 ≤ c.toNat ∧ c.toNat ≤ 122 := hc
      have hd : c.toNat - 97 + 10 = d := Option.some.inj hvalue
      have hcode : c.toNat = 87 + d := by omega
      exact .inl ((eq_ofNat_of_toNat hcode).trans (hsmall d hlt (by omega)))
    · split at hvalue
      · rename_i hc
        obtain ⟨hlow, _⟩ : 65 ≤ c.toNat ∧ c.toNat ≤ 90 := hc
        have hd : c.toNat - 65 + 10 = d := Option.some.inj hvalue
        have hcode : c.toNat = 55 + d := by omega
        exact .inr ((eq_ofNat_of_toNat hcode).trans (hcapital d hlt (by omega)))
      · cases hvalue

theorem digitValue?_of_isDigit (h : IsDigit 16 c d) : digitValue? 16 c = some d := by
  have hall : ∀ k < 16, digitValue? 16 k.digitChar = some k ∧
      digitValue? 16 k.digitChar.toUpper = some k := by decide
  obtain ⟨hd, rfl | rfl⟩ := h
  · exact (hall d hd).1
  · exact (hall d hd).2

/-- A digit of a smaller radix is a digit of radix sixteen. -/
theorem digitValue?_eq_some_iff (hradix : radix ≤ 16) :
    digitValue? radix c = some d ↔ IsDigit radix c d := by
  have hwide : digitValue? radix c = some d ↔ digitValue? 16 c = some d ∧ d < radix := by
    simp only [digitValue?, Option.filter_eq_some_iff, decide_eq_true_iff, and_assoc]
    refine and_congr_right fun _ => ?_
    omega
  rw [hwide]
  constructor
  · rintro ⟨hvalue, hd⟩
    exact ⟨hd, (isDigit_of_digitValue? hvalue).2⟩
  · rintro ⟨hd, hc⟩
    exact ⟨digitValue?_of_isDigit ⟨Nat.lt_of_lt_of_le hd hradix, hc⟩, hd⟩

theorem IsDigit.eq (hradix : radix ≤ 16) (hd : IsDigit radix c d) (he : IsDigit radix c e) :
    d = e := by
  rw [← digitValue?_eq_some_iff hradix] at hd he
  exact Option.some.inj (hd.symm.trans he)

theorem goesOn_nil : GoesOn radix acc [] n ↔ acc = n := by
  simp [GoesOn]

/-- The first digit makes its place for itself. -/
theorem goesOn_cons : GoesOn radix acc (c :: cs) n ↔
    ∃ d, IsDigit radix c d ∧ GoesOn radix (acc * radix + d) cs n := by
  have hsum : ∀ d ds, List.Forall₂ (IsDigit radix) cs ds →
      acc * radix ^ (c :: cs).length + Nat.ofDigits radix (d :: ds).reverse =
        (acc * radix + d) * radix ^ cs.length + Nat.ofDigits radix ds.reverse := by
    intro d ds hds
    rw [List.reverse_cons, Nat.ofDigits_append, Nat.ofDigits_singleton, List.length_reverse,
      ← hds.length_eq, List.length_cons, pow_succ]
    ring
  constructor
  · rintro ⟨_, hall, hn⟩
    obtain ⟨d, ds, hd, hds, rfl⟩ := List.forall₂_cons_left_iff.mp hall
    exact ⟨d, hd, ds, hds, (hsum d ds hds).symm.trans hn⟩
  · rintro ⟨d, hd, ds, hds, hn⟩
    exact ⟨d :: ds, .cons hd hds, (hsum d ds hds).trans hn⟩

/-- More digits make no number smaller. -/
theorem GoesOn.le (h : GoesOn radix acc cs n) : acc ≤ n := by
  induction cs generalizing acc with
  | nil => exact Nat.le_of_eq (goesOn_nil.mp h)
  | cons c cs ih =>
      obtain ⟨d, hd, hcs⟩ := goesOn_cons.mp h
      have hpos : 0 < radix := Nat.zero_lt_of_lt hd.1
      calc acc ≤ acc * radix := Nat.le_mul_of_pos_right acc hpos
        _ ≤ acc * radix + d := Nat.le_add_right _ d
        _ ≤ n := ih hcs

/-- No value on the way is above the last one, so only that one is measured against the limit. -/
theorem readDigits_eq_ok_iff (hradix : radix ≤ 16) (hacc : acc < limit) :
    readDigits radix limit acc cs = .ok n ↔ GoesOn radix acc cs n ∧ n < limit := by
  induction cs generalizing acc with
  | nil =>
      rw [readDigits, Except.ok.injEq, goesOn_nil]
      constructor
      · rintro rfl
        exact ⟨rfl, hacc⟩
      · exact And.left
  | cons c cs ih =>
      rw [readDigits, goesOn_cons]
      cases hvalue : digitValue? radix c with
      | none =>
          refine iff_of_false nofun ?_
          rintro ⟨⟨d, hd, _⟩, _⟩
          cases hvalue.symm.trans ((digitValue?_eq_some_iff hradix).mpr hd)
      | some d =>
          have hd := (digitValue?_eq_some_iff hradix).mp hvalue
          have honly : (∃ e, IsDigit radix c e ∧ GoesOn radix (acc * radix + e) cs n) ↔
              GoesOn radix (acc * radix + d) cs n := by
            constructor
            · rintro ⟨e, he, hcs⟩
              rwa [hd.eq hradix he]
            · exact fun hcs => ⟨d, hd, hcs⟩
          rw [honly]
          dsimp only
          split
          · rename_i hlt
            exact ih hlt
          · rename_i hge
            refine iff_of_false nofun ?_
            rintro ⟨hcs, hn⟩
            exact hge (Nat.lt_of_le_of_lt hcs.le hn)

/-- A numeral is read just if it is one and what it stands for is below the limit. -/
theorem readNumeral_eq_ok_iff (hradix : radix ≤ 16) (hlimit : 0 < limit) :
    readNumeral radix limit cs = .ok n ↔ Denotes radix cs n ∧ n < limit := by
  have hzero : Denotes radix cs n ↔ cs ≠ [] ∧ GoesOn radix 0 cs n := by
    simp only [Denotes, GoesOn, Nat.zero_mul, Nat.zero_add]
  rw [hzero]
  cases cs with
  | nil => simp [readNumeral]
  | cons c cs =>
      rw [readNumeral, readDigits_eq_ok_iff hradix hlimit]
      · simp
      · exact List.cons_ne_nil c cs

theorem Denotes.isDigit (h : Denotes radix cs n) : ∀ c ∈ cs, ∃ d, IsDigit radix c d := by
  obtain ⟨-, ds, hall, -⟩ := h
  induction hall with
  | nil => exact nofun
  | cons hd _ ih => exact List.forall_mem_cons.mpr ⟨⟨_, hd⟩, ih⟩

end

end Frontend.Text
