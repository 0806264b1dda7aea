/- How many columns of a terminal a character takes where East Asian text is the norm, as
Unicode 15.1 has it. -/
import Frontend.Text.CodeRange
import Frontend.Text.Printable

namespace Frontend.Text

/-- The characters that take two columns: wide, full-width, and ambiguous symbols. -/
def wideRanges : List CodeRange := [
  (0xa1, 0xa1), (0xa4, 0xa4), (0xa7, 0xa7), (0xae, 0xae), (0xb0, 0xb3), (0xb6, 0xb7),
  (0xb9, 0xb9), (0xbc, 0xbf), (0xd7, 0xd7), (0xf7, 0xf7), (0x387, 0x387), (0x1100, 0x115f),
  (0x17a4, 0x17a4), (0x2010, 0x2010), (0x2013, 0x2016), (0x2018, 0x2019), (0x201c, 0x201d),
  (0x2020, 0x2022), (0x2024, 0x2027), (0x2030, 0x2030), (0x2032, 0x2033), (0x2035, 0x2035),
  (0x203b, 0x203b), (0x203e, 0x203e), (0x2074, 0x2074), (0x2081, 0x2084), (0x20ac, 0x20ac),
  (0x2103, 0x2103), (0x2105, 0x2105), (0x2109, 0x2109), (0x2116, 0x2116), (0x2121, 0x2122),
  (0x2153, 0x2154), (0x215b, 0x215e), (0x2160, 0x216b), (0x2170, 0x2179), (0x2189, 0x2189),
  (0x2190, 0x219b), (0x21ae, 0x21ae), (0x21b8, 0x21b9), (0x21ce, 0x21cf), (0x21d2, 0x21d2),
  (0x21d4, 0x21d4), (0x21e7, 0x21e7), (0x2200, 0x2200), (0x2202, 0x2204), (0x2207, 0x2209),
  (0x220b, 0x220c), (0x220f, 0x220f), (0x2211, 0x2211), (0x2215, 0x2215), (0x221a, 0x221a),
  (0x221d, 0x2220), (0x2223, 0x222c), (0x222e, 0x222e), (0x2234, 0x2237), (0x223c, 0x223d),
  (0x2241, 0x2241), (0x2248, 0x2249), (0x224c, 0x224c), (0x2252, 0x2252), (0x2260, 0x2262),
  (0x2264, 0x2267), (0x226a, 0x226b), (0x226e, 0x2271), (0x2282, 0x2289), (0x2295, 0x2295),
  (0x2299, 0x2299), (0x22a5, 0x22a5), (0x22bf, 0x22bf), (0x2312, 0x2312), (0x231a, 0x231b),
  (0x2329, 0x232a), (0x23e9, 0x23ec), (0x23f0, 0x23f0), (0x23f3, 0x23f3), (0x2460, 0x24e9),
  (0x24eb, 0x254b), (0x2550, 0x2573), (0x2580, 0x258f), (0x2592, 0x2595), (0x25a0, 0x25a1),
  (0x25a3, 0x25a9), (0x25b2, 0x25b3), (0x25b6, 0x25b7), (0x25bc, 0x25bd), (0x25c0, 0x25c1),
  (0x25c6, 0x25c8), (0x25cb, 0x25cb), (0x25ce, 0x25d1), (0x25e2, 0x25e5), (0x25ef, 0x25ef),
  (0x25fd, 0x25fe), (0x2605, 0x2606), (0x2609, 0x2609), (0x260e, 0x260f), (0x2614, 0x2615),
  (0x261c, 0x261c), (0x261e, 0x261e), (0x2640, 0x2640), (0x2642, 0x2642), (0x2648, 0x2653),
  (0x2660, 0x2661), (0x2663, 0x2665), (0x2667, 0x266a), (0x266c, 0x266d), (0x266f, 0x266f),
  (0x267f, 0x267f), (0x2693, 0x2693), (0x269e, 0x269f), (0x26a1, 0x26a1), (0x26aa, 0x26ab),
  (0x26bd, 0x26bf), (0x26c4, 0x26e1), (0x26e3, 0x26e3), (0x26e8, 0x26ff), (0x2705, 0x2705),
  (0x270a, 0x270b), (0x2728, 0x2728), (0x273d, 0x273d), (0x274c, 0x274c), (0x274e, 0x274e),
  (0x2753, 0x2755), (0x2757, 0x2757), (0x2776, 0x277f), (0x2795, 0x2797), (0x27b0, 0x27b0),
  (0x27bf, 0x27bf), (0x2b1b, 0x2b1c), (0x2b50, 0x2b50), (0x2b55, 0x2b59), (0x2e80, 0x2e99),
  (0x2e9b, 0x2ef3), (0x2f00, 0x2fd5), (0x2ff0, 0x3029), (0x3030, 0x303e), (0x3041, 0x3096),
  (0x309b, 0x30ff), (0x3105, 0x312f), (0x3131, 0x3163), (0x3165, 0x318e), (0x3190, 0x31e3),
  (0x31ef, 0x321e), (0x3220, 0x4dbf), (0x4e00, 0xa48c), (0xa490, 0xa4c6), (0xa960, 0xa97c),
  (0xac00, 0xd7a3), (0xe000, 0xfaff), (0xfe10, 0xfe19), (0xfe30, 0xfe52), (0xfe54, 0xfe66),
  (0xfe68, 0xfe6b), (0xff01, 0xff60), (0xffe0, 0xffe6), (0xfffd, 0xfffd), (0x16fe0, 0x16fe3),
  (0x16ff0, 0x16ff1), (0x17000, 0x187f7), (0x18800, 0x18cd5), (0x18d00, 0x18d08),
  (0x1aff0, 0x1aff3), (0x1aff5, 0x1affb), (0x1affd, 0x1affe), (0x1b000, 0x1b122),
  (0x1b132, 0x1b132), (0x1b150, 0x1b152), (0x1b155, 0x1b155), (0x1b164, 0x1b167),
  (0x1b170, 0x1b2fb), (0x1f004, 0x1f004), (0x1f0cf, 0x1f0cf), (0x1f100, 0x1f10a),
  (0x1f110, 0x1f12d), (0x1f130, 0x1f169), (0x1f170, 0x1f1ac), (0x1f200, 0x1f202),
  (0x1f210, 0x1f23b), (0x1f240, 0x1f248), (0x1f250, 0x1f251), (0x1f260, 0x1f265),
  (0x1f300, 0x1f320), (0x1f32d, 0x1f335), (0x1f337, 0x1f37c), (0x1f37e, 0x1f393),
  (0x1f3a0, 0x1f3ca), (0x1f3cf, 0x1f3d3), (0x1f3e0, 0x1f3f0), (0x1f3f4, 0x1f3f4),
  (0x1f3f8, 0x1f43e), (0x1f440, 0x1f440), (0x1f442, 0x1f4fc), (0x1f4ff, 0x1f53d),
  (0x1f54b, 0x1f54e), (0x1f550, 0x1f567), (0x1f57a, 0x1f57a), (0x1f595, 0x1f596),
  (0x1f5a4, 0x1f5a4), (0x1f5fb, 0x1f64f), (0x1f680, 0x1f6c5), (0x1f6cc, 0x1f6cc),
  (0x1f6d0, 0x1f6d2), (0x1f6d5, 0x1f6d7), (0x1f6dc, 0x1f6df), (0x1f6eb, 0x1f6ec),
  (0x1f6f4, 0x1f6fc), (0x1f7e0, 0x1f7eb), (0x1f7f0, 0x1f7f0), (0x1f90c, 0x1f93a),
  (0x1f93c, 0x1f945), (0x1f947, 0x1f9ff), (0x1fa70, 0x1fa7c), (0x1fa80, 0x1fa88),
  (0x1fa90, 0x1fabd), (0x1fabf, 0x1fac5), (0x1face, 0x1fadb), (0x1fae0, 0x1fae8),
  (0x1faf0, 0x1faf8), (0x20000, 0x2fffd), (0x30000, 0x3fffd), (0xf0000, 0xffffd),
  (0x100000, 0x10fffd)]

/-- Beside the combining characters: ignorable code points, joined vowels, marks over numbers,
and letters that join the letter after them. -/
def zeroWidthRanges : List CodeRange := [
  (0xad, 0xad), (0x605, 0x605), (0x61c, 0x61c), (0x70f, 0x70f), (0x890, 0x891), (0x8e2, 0x8e2),
  (0xd4e, 0xd4e), (0x1160, 0x11ff), (0x180e, 0x180e), (0x200b, 0x200b), (0x200d, 0x200f),
  (0x202a, 0x202e), (0x2060, 0x206f), (0x3164, 0x3164), (0xa8fa, 0xa8fa), (0xd7b0, 0xd7c6),
  (0xd7cb, 0xd7fb), (0xfeff, 0xfeff), (0xffa0, 0xffa0), (0xfff0, 0xfff8), (0x111c2, 0x111c3),
  (0x1171e, 0x1171e), (0x1193f, 0x1193f), (0x11941, 0x11941), (0x11a3a, 0x11a3a),
  (0x11a84, 0x11a89), (0x11d46, 0x11d46), (0x11f02, 0x11f02), (0x1bca0, 0x1bca3),
  (0x1d173, 0x1d17a), (0xe0000, 0xe001f), (0xe0080, 0xe00ff), (0xe01f0, 0xe0fff)]

/-- Combining characters that take a column all the same: signs that stand beside their base, and
marks that Unicode 15.1 does not have. -/
def spacingMarkRanges : List CodeRange := [
  (0x897, 0x897), (0x1715, 0x1715), (0x1734, 0x1734), (0x1acf, 0x1add), (0x1ae0, 0x1aeb),
  (0x1b44, 0x1b44), (0x1baa, 0x1baa), (0x1bf2, 0x1bf3), (0x2d7f, 0x2d7f), (0xa953, 0xa953),
  (0xa9c0, 0xa9c0), (0x10d69, 0x10d6d), (0x10efa, 0x10efc), (0x111c0, 0x111c0),
  (0x11235, 0x11235), (0x1134d, 0x1134d), (0x113b8, 0x113b8), (0x113bb, 0x113c0),
  (0x113c2, 0x113c2), (0x113c5, 0x113c5), (0x113c7, 0x113c9), (0x113ce, 0x113d0),
  (0x113d2, 0x113d2), (0x113e1, 0x113e2), (0x116b6, 0x116b6), (0x1193d, 0x1193d),
  (0x11b60, 0x11b60), (0x11b62, 0x11b64), (0x11b66, 0x11b66), (0x11f41, 0x11f41),
  (0x11f5a, 0x11f5a), (0x1611e, 0x16129), (0x1612d, 0x1612f), (0x1d166, 0x1d166),
  (0x1d16d, 0x1d16d), (0x1e5ee, 0x1e5ef), (0x1e6e3, 0x1e6e3), (0x1e6e6, 0x1e6e6),
  (0x1e6ee, 0x1e6ef), (0x1e6f5, 0x1e6f5)]

def glyphWidth (c : Char) : Nat :=
  if c = '\u17d8' then 3
  else if inRanges wideRanges c then 2
  else if inRanges spacingMarkRanges c then 1
  else if extendsGrapheme c || inRanges zeroWidthRanges c then 0
  else 1

/-- A control character has no width of its own and counts as one column. -/
def columnWidth (c : Char) : Nat := if isControl c then 1 else glyphWidth c

end Frontend.Text
