/- Finding a mark in a text, trimming its ends, and cutting it into lines. -/
namespace Frontend.Text

/-- The text before the first occurrence of `mark` and the text after it. -/
def cut? (mark : List Char) : List Char → Option (List Char × List Char)
  | [] => if mark.isEmpty then some ([], []) else none
  | c :: cs =>
    if mark.isPrefixOf (c :: cs) then some ([], (c :: cs).drop mark.length)
    else (cut? mark cs).map fun (before, after) => (c :: before, after)

/-- What follows `mark` in a text that starts with it. -/
def after? (mark text : List Char) : Option (List Char) :=
  if mark.isPrefixOf text then some (text.drop mark.length) else none

def occursIn (mark text : List Char) : Bool := (cut? mark text).isSome

/-- Cutting loses nothing: the parts around the mark make up the text. -/
theorem append_of_cut? {mark text before after : List Char}
    (h : cut? mark text = some (before, after)) : before ++ mark ++ after = text := by
  induction text generalizing before with
  | nil =>
    unfold cut? at h
    split at h
    · rename_i hmark
      cases h
      simpa using hmark
    · cases h
  | cons c cs ih =>
    unfold cut? at h
    split at h
    · rename_i hmark
      cases h
      obtain ⟨after, hafter⟩ := List.isPrefixOf_iff_prefix.mp hmark
      rw [← hafter]
      simp
    · obtain ⟨⟨before', after'⟩, hcut, hpair⟩ := Option.map_eq_some_iff.mp h
      cases hpair
      rw [List.cons_append, List.cons_append, ih hcut]

def trimStart (p : Char → Bool) (text : List Char) : List Char := text.dropWhile p

def trimEnd (p : Char → Bool) (text : List Char) : List Char :=
  (text.reverse.dropWhile p).reverse

def trim (p : Char → Bool) (text : List Char) : List Char := trimEnd p (trimStart p text)

/-- The non-empty runs of characters that are not separators. -/
def fields (isSeparator : Char → Bool) : List Char → List (List Char)
  | [] => []
  | c :: cs =>
    if isSeparator c then fields isSeparator cs
    else
      match cs with
      | [] => [[c]]
      | next :: _ =>
        if isSeparator next then [c] :: fields isSeparator cs
        else
          match fields isSeparator cs with
          | [] => [[c]]
          | field :: rest => (c :: field) :: rest

/-- Blanks up to the column `width`, after a text that is already `used` columns long. -/
def padding (width used : Nat) : String := String.ofList (List.replicate (width - used) ' ')

/-- Empty pieces between separators count too. -/
def splitAt {α : Type} (isSeparator : α → Bool) : List α → List (List α)
  | [] => [[]]
  | c :: cs =>
    if isSeparator c then [] :: splitAt isSeparator cs
    else
      match splitAt isSeparator cs with
      | [] => [[c]]
      | piece :: pieces => (c :: piece) :: pieces

def dropReturn (line : List UInt8) : List UInt8 :=
  if line.getLast? = some 0x0d then line.dropLast else line

/-- The lines of a text in bytes. A carriage return right before a line feed belongs to it, and what
follows the last line feed is a line if there is anything. -/
def byteLines (bytes : List UInt8) : List (List UInt8) :=
  let pieces := splitAt (· == 0x0a) bytes
  let last := pieces.getLast?.getD []
  pieces.dropLast.map dropReturn ++ if last.isEmpty then [] else [last]

def joinLines (lines : List (List Char)) : List Char := List.intercalate ['\n'] lines

end Frontend.Text
