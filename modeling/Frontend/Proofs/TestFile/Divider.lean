/- Which lines divide a test file, and what they say of the test after them. -/
import Frontend.Proofs.TestFile.Collection
import Frontend.Proofs.Text.Cut
import Frontend.Proofs.Text.Run

namespace Frontend

namespace Divider

variable {line text title name : List Char} {options : List (List Char)} {ignored : Bool}
variable {d : Divider}

/-- The scissors of a divider, by whether the test after it is not run. -/
def scissors (ignored : Bool) : List Char := if ignored then ignoreMark else openMark

/-- Scissors without the two dashes in front. -/
def blades (ignored : Bool) : List Char := if ignored then ">8--".toList else "8<--".toList

theorem scissors_eq (ignored : Bool) : scissors ignored = '-' :: '-' :: blades ignored := by
  cases ignored <;> rfl

theorem scissors_ne_nil (ignored : Bool) : scissors ignored ≠ [] := by
  rw [scissors_eq]
  exact List.cons_ne_nil _ _

theorem dropLast_scissors_append (ignored : Bool) :
    (scissors ignored).dropLast ++ ['-'] = scissors ignored := by
  cases ignored <;> rfl

/-- Dashes before blades are told from the text, and so are the blades and what follows them. -/
theorem dashes_blades_inj {m n : Nat} {ignored' : Bool} {u v : List Char}
    (h : List.replicate m '-' ++ (blades ignored ++ u) =
      List.replicate n '-' ++ (blades ignored' ++ v)) : m = n ∧ ignored = ignored' ∧ u = v := by
  have hdashes : ∀ n, ∀ c ∈ List.replicate n '-', (c == '-') = true := by
    intro n c hc
    rw [List.eq_of_mem_replicate hc, beq_self_eq_true]
  have hblades : ∀ ignored u, ∀ c ∈ (blades ignored ++ u).head?, (c == '-') = false := by
    intro ignored u c hc
    cases ignored <;> cases hc <;> rfl
  obtain ⟨hrun, hrest⟩ := Text.run_append_inj (hdashes m) (hdashes n) (hblades ignored u)
    (hblades ignored' v) h
  have hhead := congrArg List.head? hrest
  have hignored : ignored = ignored' := by
    cases ignored <;> cases ignored' <;> first | rfl | cases hhead
  subst hignored
  exact ⟨by simpa using congrArg List.length hrun, rfl, List.append_cancel_left hrest⟩

theorem dashes_scissors (n : Nat) (ignored : Bool) (title : List Char) :
    List.replicate n '-' ++ scissors ignored ++ title =
      List.replicate (n + 2) '-' ++ (blades ignored ++ title) := by
  rw [scissors_eq, List.replicate_add]
  simp

/-- Two slashes, any number of dashes and scissors, with `title` after them. -/
def Marked (line : List Char) (ignored : Bool) (title : List Char) : Prop :=
  ∃ n, line = "//".toList ++ (List.replicate n '-' ++ scissors ignored ++ title)

/-- A line is marked in one way only. -/
theorem Marked.inj {ignored' : Bool} {title' : List Char} (h : Marked line ignored title)
    (h' : Marked line ignored' title') : ignored = ignored' ∧ title = title' := by
  obtain ⟨n, rfl⟩ := h
  obtain ⟨n', hline⟩ := h'
  have htext := List.append_cancel_left hline
  rw [dashes_scissors, dashes_scissors] at htext
  exact (dashes_blades_inj htext).2

/-- Scissors after dashes are the first ones: the dashes do not make up other ones before. -/
theorem not_scissors_infix (ignored : Bool) (n : Nat) :
    ¬ scissors ignored <:+: List.replicate n '-' ++ (scissors ignored).dropLast := by
  induction n with
  | zero => cases ignored <;> decide
  | succ n ih =>
      rw [List.replicate_succ, List.cons_append, List.infix_cons_iff]
      rintro (⟨rest, hrest⟩ | hlater)
      · -- scissors have two dashes before their blades, and from here there are more
        have hdashes : List.replicate 0 '-' ++ scissors ignored ++ (rest ++ ['-']) =
            List.replicate (n + 1) '-' ++ scissors ignored ++ [] := by
          rw [List.replicate_zero, List.nil_append, ← List.append_assoc, hrest,
            ← List.cons_append, ← List.replicate_succ, List.append_assoc,
            dropLast_scissors_append, List.append_nil]
        rw [dashes_scissors, dashes_scissors] at hdashes
        have hlength := (dashes_blades_inj hdashes).1
        omega
      · exact ih hlater

theorem cut?_scissors (n : Nat) (ignored : Bool) (title : List Char) :
    Text.cut? (scissors ignored) (List.replicate n '-' ++ scissors ignored ++ title) =
      some (List.replicate n '-', title) :=
  (Text.cut?_eq_some_iff (scissors_ne_nil ignored)).mpr ⟨rfl, not_scissors_infix ignored n⟩

/-- A name alone, or a name and the options after two dashes. The name ends before the dashes and
blanks at the end, or before the blanks in front of the two dashes. -/
inductive Entitles : List Char → List Char → List (List Char) → Prop
  | name {name rest} (hdashes : ¬ "--".toList <:+: name ++ rest)
      (hrest : ∀ c ∈ rest, isFiller c = true) (hlast : ∀ c ∈ name.getLast?, isFiller c = false) :
      Entitles (name ++ rest) name []
  | options {name blanks rest} (hdashes : ¬ "--".toList <:+: name ++ blanks ++ ['-'])
      (hblanks : ∀ c ∈ blanks, Text.isWhitespace c = true)
      (hlast : ∀ c ∈ name.getLast?, Text.isWhitespace c = false) :
      Entitles (name ++ blanks ++ "--".toList ++ rest) name
        (Text.fields Text.isWhitespace (Text.trim isFiller rest))

/-- The name and the options of a title come after the dashes and blanks at its start. -/
def Titled (title name : List Char) (options : List (List Char)) : Prop :=
  ∃ filler text, title = filler ++ text ∧ (∀ c ∈ filler, isFiller c = true) ∧
    (∀ c ∈ text.head?, isFiller c = false) ∧ Entitles text name options

theorem ofTitle_of_titled (h : Titled title name options) :
    ofTitle ignored title = ⟨ignored, name, options⟩ := by
  obtain ⟨filler, text, rfl, hfiller, hhead, hentitles⟩ := h
  unfold ofTitle
  rw [Text.trimStart_eq_iff.mpr ⟨filler, rfl, hfiller, hhead⟩]
  dsimp only
  cases hentitles with
  | @name name rest hdashes hrest hlast =>
      rw [Text.cut?_eq_none_iff.mpr hdashes]
      dsimp only
      rw [Text.trimEnd_eq_iff.mpr ⟨rest, rfl, hrest, hlast⟩]
  | @options name blanks rest hdashes hblanks hlast =>
      rw [(Text.cut?_eq_some_iff (by decide)).mpr ⟨rfl, hdashes⟩]
      dsimp only
      rw [Text.trimEnd_eq_iff.mpr ⟨blanks, rfl, hblanks, hlast⟩]

theorem ofTitle_eq_iff :
    ofTitle ignored title = d ↔ d.ignored = ignored ∧ Titled title d.name d.options := by
  constructor
  · rintro rfl
    unfold ofTitle
    generalize htext : Text.trimStart isFiller title = text
    obtain ⟨filler, rfl, hfiller, hhead⟩ := Text.trimStart_eq_iff.mp htext
    dsimp only
    cases hcut : Text.cut? "--".toList text with
    | none =>
        obtain ⟨rest, hrest, hrun, hlast⟩ := Text.exists_trimEnd_append isFiller text
        have hdashes : ¬ "--".toList <:+: Text.trimEnd isFiller text ++ rest := by
          rw [← hrest]
          exact Text.cut?_eq_none_iff.mp hcut
        have hentitles := Entitles.name hdashes hrun hlast
        rw [← hrest] at hentitles
        exact ⟨rfl, filler, text, rfl, hfiller, hhead, hentitles⟩
    | some parts =>
        obtain ⟨before, after⟩ := parts
        obtain ⟨htext, hdashes⟩ := (Text.cut?_eq_some_iff (by decide)).mp hcut
        obtain ⟨blanks, hbefore, hblanks, hlast⟩ :=
          Text.exists_trimEnd_append Text.isWhitespace before
        rw [hbefore] at hdashes
        have hentitles : Entitles (_ ++ _ ++ _ ++ after) _ _ := .options hdashes hblanks hlast
        rw [← hbefore, ← htext] at hentitles
        exact ⟨rfl, filler, text, rfl, hfiller, hhead, hentitles⟩
  · rintro ⟨rfl, htitled⟩
    exact ofTitle_of_titled htitled

theorem cutAt?_eq_some_iff : cutAt? ignored (scissors ignored) text = some d ↔
    d.ignored = ignored ∧ ∃ n title, text = List.replicate n '-' ++ scissors ignored ++ title ∧
      Titled title d.name d.options := by
  unfold cutAt?
  constructor
  · intro h
    split at h
    · rename_i before title hcut
      split at h
      · rename_i hdashes
        obtain ⟨hignored, htitled⟩ := ofTitle_eq_iff.mp (Option.some.inj h)
        have hbefore : before = List.replicate before.length '-' :=
          List.eq_replicate_iff.mpr ⟨rfl, by simpa using hdashes⟩
        refine ⟨hignored, before.length, title, ?_, htitled⟩
        rw [← hbefore, Text.append_of_cut? hcut]
      · cases h
    · cases h
  · rintro ⟨hignored, n, title, rfl, htitled⟩
    rw [cut?_scissors, ← ofTitle_eq_iff.mpr ⟨hignored, htitled⟩]
    simp

theorem openMark_infix_iff : openMark <:+: "//".toList ++ text ↔ openMark <:+: text := by
  have hstarts : ∀ cs, ¬ openMark <+: '/' :: cs := by
    rintro cs ⟨rest, hrest⟩
    cases congrArg List.head? hrest
  change openMark <:+: '/' :: '/' :: text ↔ _
  simp only [List.infix_cons_iff, hstarts, false_or]

/-- The dividers are the lines that are marked, but for those of a test that is not run in which
the scissors that open a test stand too. -/
theorem ofLine?_eq_some_iff : ofLine? line = some d ↔
    ∃ title, Marked line d.ignored title ∧ (d.ignored = true → ¬ openMark <:+: line) ∧
      Titled title d.name d.options := by
  constructor
  · intro h
    unfold ofLine? at h
    split at h
    · cases h
    · rename_i text hslashes
      obtain rfl := Text.after?_eq_some_iff.mp hslashes
      rw [openMark_infix_iff, ← Text.occursIn_iff]
      split at h
      · obtain ⟨hignored, n, title, htext, htitled⟩ := cutAt?_eq_some_iff.mp h
        rw [hignored]
        exact ⟨title, ⟨n, congrArg _ htext⟩, nofun, htitled⟩
      · rename_i hopen
        obtain ⟨hignored, n, title, htext, htitled⟩ := cutAt?_eq_some_iff.mp h
        rw [hignored]
        exact ⟨title, ⟨n, congrArg _ htext⟩, fun _ => hopen, htitled⟩
  · rintro ⟨title, ⟨n, rfl⟩, hopen, htitled⟩
    rw [openMark_infix_iff, ← Text.occursIn_iff] at hopen
    unfold ofLine?
    rw [Text.after?_eq_some_iff.mpr rfl]
    have hcut := cutAt?_eq_some_iff.mpr ⟨rfl, n, title, rfl, htitled⟩
    dsimp only
    cases hignored : d.ignored with
    | false =>
        have hopen : openMark <:+: List.replicate n '-' ++ scissors false ++ title :=
          ⟨List.replicate n '-', title, rfl⟩
        rw [hignored] at hcut
        rw [if_pos (Text.occursIn_iff.mpr hopen)]
        exact hcut
    | true =>
        rw [hignored] at hopen hcut
        rw [if_neg (hopen rfl)]
        exact hcut

/-- A line is a divider just if it is marked and, where the mark is that of a test which is not run,
the scissors that open a test stand nowhere in it. The mark tells whether the test is run, and the
title after it has the name and the options. -/
theorem ofLine?_recognizes (line : List Char) :
    ((ofLine? line).isSome = true ↔
      ∃ ignored title, Marked line ignored title ∧ (ignored = true → ¬ openMark <:+: line)) ∧
      ∀ ignored title, Marked line ignored title → ∀ d, ofLine? line = some d →
        d.ignored = ignored ∧ Titled title d.name d.options := by
  refine ⟨?_, ?_⟩
  · rw [Option.isSome_iff_exists]
    constructor
    · rintro ⟨d, hd⟩
      obtain ⟨title, hmarked, hopen, _⟩ := ofLine?_eq_some_iff.mp hd
      exact ⟨d.ignored, title, hmarked, hopen⟩
    · rintro ⟨ignored, title, hmarked, hopen⟩
      obtain ⟨hignored, htitled⟩ := ofTitle_eq_iff.mp (Eq.refl (ofTitle ignored title))
      refine ⟨ofTitle ignored title, ofLine?_eq_some_iff.mpr ⟨title, ?_, ?_, htitled⟩⟩
      · rw [hignored]
        exact hmarked
      · rw [hignored]
        exact hopen
  · intro ignored title hmarked d hd
    obtain ⟨title', hmarked', _, htitled⟩ := ofLine?_eq_some_iff.mp hd
    obtain ⟨hignored, rfl⟩ := hmarked'.inj hmarked
    exact ⟨hignored, htitled⟩

/-- A divider of a test that is not run, filled up with dashes. -/
def filledUp : List Char := "//-->8-- baz ------".toList

theorem ofLine?_recognizes_filledUp : (ofLine? filledUp).isSome = true ∧
    Marked filledUp true " baz ------".toList ∧
      ofLine? filledUp = some ⟨true, "baz".toList, []⟩ ∧
        Titled " baz ------".toList "baz".toList [] := by
  have hmarked : Marked filledUp true " baz ------".toList := ⟨0, rfl⟩
  have hdivider : ofLine? filledUp = some ⟨true, "baz".toList, []⟩ := by rfl
  obtain ⟨hsome, htells⟩ := ofLine?_recognizes filledUp
  exact ⟨hsome.mpr ⟨true, _, hmarked, fun _ => by decide⟩, hmarked, hdivider,
    (htells _ _ hmarked _ hdivider).2⟩

/-- Not every line that is marked is a divider: the scissors that open a test are looked for in all
of it before the others. -/
theorem not_all_marked_recognized :
    ¬ ∀ line ignored title, Marked line ignored title → (ofLine? line).isSome = true := by
  intro h
  have hmarked : Marked "//-->8-- second --8<-- later".toList true
      " second --8<-- later".toList := ⟨0, rfl⟩
  exact absurd (h _ _ _ hmarked) (by decide)

end Divider

namespace TestCase

/-- The line before the first one of a test is marked. It tells whether the test is run, its name
and whether the reports have to match exactly. -/
theorem marked_of_ofLines {lines : List (List Char)} {tests : List TestCase}
    (h : ofLines lines = .ok tests) :
    ∀ t ∈ tests, ∃ before line after title options, lines = before ++ line :: after ∧
      t.firstLine = before.length + 2 ∧ Divider.Marked line t.ignored title ∧
      Divider.Titled title t.name options ∧ t.exact = options.contains "exact".toList := by
  intro t ht
  obtain ⟨s, hs, hyields⟩ := exists_yields h ht
  obtain ⟨before, line, after, hlines, hnumber, hdivider, _⟩ := Section.exists_of_mem_allOf hs
  obtain ⟨title, hmarked, _, htitled⟩ := Divider.ofLine?_eq_some_iff.mp hdivider
  have hheading := (collects_of_yields hyields).heading
  have hfirst : t.firstLine = s.number + 1 := congrArg firstLine hheading
  have hignored : t.ignored = s.divider.ignored := congrArg ignored hheading
  have hname : t.name = s.divider.name := congrArg name hheading
  have hexact : t.exact = s.divider.isExact := congrArg exact hheading
  refine ⟨before, line, after, title, s.divider.options, hlines, ?_, ?_, ?_, hexact⟩
  · omega
  · rw [hignored]
    exact hmarked
  · rw [hname]
    exact htitled

end TestCase

end Frontend
