/- Sets of characters as lists of ranges of code points; white space and control characters. -/
namespace Frontend.Text

/-- The first and the last code point of a run of characters. -/
abbrev CodeRange := Nat × Nat

def CodeRange.contains (r : CodeRange) (c : Char) : Bool :=
  r.1 ≤ c.toNat && c.toNat ≤ r.2

def inRanges (rs : List CodeRange) (c : Char) : Bool :=
  rs.any (·.contains c)

theorem inRanges_eq_true_iff (rs : List CodeRange) (c : Char) :
    inRanges rs c = true ↔ ∃ r ∈ rs, r.1 ≤ c.toNat ∧ c.toNat ≤ r.2 := by
  simp [inRanges, CodeRange.contains]

/-- The characters up to U+007F, for which every class below is spelled out. -/
def isAscii (c : Char) : Bool := c.toNat < 0x80

/-- The characters with the property White_Space. -/
def whitespaceRanges : List CodeRange := [
  (0x9, 0xd), (0x20, 0x20), (0x85, 0x85), (0xa0, 0xa0), (0x1680, 0x1680), (0x2000, 0x200a),
  (0x2028, 0x2029), (0x202f, 0x202f), (0x205f, 0x205f), (0x3000, 0x3000)]

def isWhitespace (c : Char) : Bool := inRanges whitespaceRanges c

def isControl (c : Char) : Bool :=
  c.toNat < 0x20 || (0x7f ≤ c.toNat && c.toNat < 0xa0)

end Frontend.Text
