/- The files of a registry, each under its number, and the spans that are made from them. -/
import Frontend.Proofs.Source.Registration
import Frontend.Proofs.Source.Tiling

namespace Frontend

/-- The text without a byte order mark in front. -/
def withoutMark : List Char → List Char
  | '\ufeff' :: text => text
  | text => text

namespace SourceFile

/-- The file as it stands in a registry. -/
def numbered (f : SourceFile) (id : FileId) : SourceFile := { f with id? := some id }

theorem body_eq (f : SourceFile) : f.body = withoutMark f.chars := by
  unfold body bodyStart withoutMark
  split
  · rename_i hmark
    obtain ⟨text, htext⟩ := List.head?_eq_some_iff.mp hmark
    rw [htext]
    rfl
  · rename_i hmark
    split
    · rename_i text htext
      exact absurd (congrArg List.head? htext) hmark
    · rfl

theorem span_numbered (f : SourceFile) (id : FileId) :
    (f.numbered id).span = .within id f.bodyStart f.chars.length :=
  congrArg (Span.within id f.bodyStart) f.lines_stop

theorem ordered_span (f : SourceFile) : f.span.Ordered := by
  unfold span spanBetween
  split
  · exact Nat.le_refl 0
  · exact f.bodyStart_le_stop

end SourceFile

theorem Position.file?_offsetBy (n : Nat) (p : Position) : (p.offsetBy n).file? = p.file? := by
  cases p <;> rfl

namespace Span

theorem file?_point (p : Position) : (point p).file? = p.file? := by
  cases p <;> rfl

theorem file?_start (s : Span) : s.start.file? = s.file? := by
  cases s <;> rfl

theorem file?_stop (s : Span) : s.stop.file? = s.file? := by
  cases s <;> rfl

theorem ordered_point (p : Position) : (point p).Ordered := by
  cases p with
  | nowhere => exact Nat.le_refl 0
  | inFile id offset => exact Nat.le_refl offset

theorem ordered_of_between {p q : Position} {s : Span} (h : between p q = .ok s) : s.Ordered := by
  unfold between at h
  split at h
  · cases h
    exact Nat.le_refl 0
  · cases h
    exact Nat.le_refl 0
  · rename_i a _ b
    split at h
    · cases h
      exact Nat.le_trans (Nat.min_le_left a b) (Nat.le_max_left a b)
    · cases h

theorem file?_of_between {p q : Position} {s : Span} {id : FileId} (h : between p q = .ok s)
    (hs : s.file? = some id) : p.file? = some id := by
  unfold between at h
  split at h
  · cases h
    cases hs
  · cases h
    cases hs
  · split at h
    · cases h
      exact hs
    · cases h

/-- Two positions of one file, or of none, have the same span between them in either order. -/
theorem exists_between {p q : Position} (h : p.file? = q.file?) :
    ∃ s, between p q = .ok s ∧ between q p = .ok s := by
  cases p with
  | nowhere =>
      cases q with
      | nowhere => exact ⟨nowhere, rfl, rfl⟩
      | inFile _ _ => cases h
  | inFile id a =>
      cases q with
      | nowhere => cases h
      | inFile _ b =>
          cases h
          refine ⟨within id (min a b) (max a b), if_pos rfl, ?_⟩
          rw [between, if_pos rfl, Nat.min_comm, Nat.max_comm]

end Span

namespace Registry

/-- Registers files one after another, and gives their spans in the same order. -/
def addEach (r : Registry) : List SourceFile → Registry × List Span
  | [] => (r, [])
  | f :: files =>
    let rest := (r.add f).1.addEach files
    (rest.1, (r.add f).2 :: rest.2)

/-- The registry holds these files in order, each under its number, and has given these spans for
them. -/
structure Registered (r : Registry) (files : List SourceFile) (spans : List Span) : Prop where
  files : r.files = files.mapIdx fun k f => f.numbered ⟨k⟩
  spans : spans = r.files.map SourceFile.span

/-- What the registry says of files that were added in this order, for which it gave these spans. -/
structure Catalogue (r : Registry) (files : List SourceFile) (spans : List Span) : Prop where
  length : spans.length = files.length
  file : ∀ (id : FileId) (f : SourceFile), files[id.index]? = some f →
    r.file? id = some (f.numbered id)
  span : ∀ (id : FileId) (f : SourceFile), files[id.index]? = some f →
    spans[id.index]? = some (f.numbered id).span ∧
      (f.numbered id).span = .within id f.bodyStart f.chars.length
  text : ∀ (id : FileId) (f : SourceFile), files[id.index]? = some f →
    r.slice? (f.numbered id).span = some (withoutMark f.chars)
  numbers : ∀ id, (r.file? id).isSome = true ↔ 1 ≤ id.number ∧ id.number ≤ files.length
  own : ∀ id f, r.file? id = some f → f.id? = some id
  unknown : ∀ id : FileId, files.length < id.number →
    r.file? id = none ∧ (∀ a b, r.slice? (.within id a b) = none) ∧
      ∀ other f, r.file? other = some f → ∀ offset, f.lineAt? (.inFile id offset) = none
  nowhere : r.fileOf? .nowhere = none ∧ r.slice? .nowhere = none ∧
    ∀ f : SourceFile, f.lineAt? .nowhere = none ∧ f.linesOf? .nowhere = none

/-- Whatever is asked of the first registry about a file, the second one answers the same. -/
structure AnswersAlike (r r' : Registry) (id : FileId) : Prop where
  file : r'.file? id = r.file? id
  slice : ∀ a b, r'.slice? (.within id a b) = r.slice? (.within id a b)
  line : ∀ p, (r'.file? id).bind (fun f => (f.lineAt? p).map fun i => (i, f.lineSpan i)) =
    (r.file? id).bind fun f => (f.lineAt? p).map fun i => (i, f.lineSpan i)
  lines : ∀ s, (r'.file? id).bind (·.linesOf? s) = (r.file? id).bind (·.linesOf? s)

mutual

/-- The spans made from the files of a registry. -/
inductive MakesSpan (r : Registry) : Span → Prop
  | file {id : FileId} {f : SourceFile} (h : r.file? id = some f) : MakesSpan r f.span
  | between {p q : Position} {s : Span} (hp : MakesPosition r p) (hq : MakesPosition r q)
      (h : Span.between p q = .ok s) : MakesSpan r s
  | point {p : Position} (h : MakesPosition r p) : MakesSpan r (.point p)

/-- The positions made from such spans. -/
inductive MakesPosition (r : Registry) : Position → Prop
  | nowhere : MakesPosition r .nowhere
  | start {s : Span} (h : MakesSpan r s) : MakesPosition r s.start
  | stop {s : Span} (h : MakesSpan r s) : MakesPosition r s.stop
  | positionAt {s : Span} (h : MakesSpan r s) (n : Nat) : MakesPosition r (s.positionAt n)
  | offsetBy {p : Position} (h : MakesPosition r p) (n : Nat) : MakesPosition r (p.offsetBy n)

end

section
variable {r r' : Registry} {files later : List SourceFile} {spans : List Span} {id : FileId}
  {f : SourceFile}

theorem registered_empty : Registered {} [] [] := ⟨rfl, rfl⟩

/-- One more file gets the next number, and nothing else changes. -/
theorem Registered.add (h : r.Registered files spans) (f : SourceFile) :
    (r.add f).1.Registered (files ++ [f]) (spans ++ [(r.add f).2]) where
  files := by
    have hlength : r.files.length = files.length := by
      rw [h.files, List.length_mapIdx]
    rw [List.mapIdx_append, ← h.files]
    simp [Registry.add, SourceFile.numbered, hlength]
  spans := by
    rw [h.spans, Registry.add, List.map_append]
    rfl

theorem Registered.addEach (h : r.Registered files spans) (later : List SourceFile) :
    (r.addEach later).1.Registered (files ++ later) (spans ++ (r.addEach later).2) := by
  induction later generalizing r files spans with
  | nil => simpa [Registry.addEach] using h
  | cons f later ih =>
      have hrest := ih (h.add f)
      rw [List.append_assoc, List.append_assoc] at hrest
      exact hrest

theorem Registered.file?_eq (h : r.Registered files spans) (id : FileId) :
    r.file? id = files[id.index]?.map (·.numbered id) := by
  rw [file?, h.files, List.getElem?_mapIdx]

theorem Registered.spans_getElem? (h : r.Registered files spans) (id : FileId) :
    spans[id.index]? = (r.file? id).map SourceFile.span := by
  rw [h.spans, List.getElem?_map, file?]

/-- The numbers from one up to the number of files are given, and no others. -/
theorem Registered.file?_isSome_iff (h : r.Registered files spans) :
    (r.file? id).isSome = true ↔ 1 ≤ id.number ∧ id.number ≤ files.length := by
  rw [h.file?_eq, Option.isSome_map, Option.isSome_iff_exists, FileId.number]
  constructor
  · rintro ⟨f, hf⟩
    exact ⟨Nat.succ_pos _, (List.getElem?_eq_some_iff.mp hf).1⟩
  · rintro ⟨_, hlt⟩
    exact ⟨_, List.getElem?_eq_getElem hlt⟩

theorem slice?_span (hnumbered : r.Numbered) (h : r.file? id = some f) :
    r.slice? f.span = some (withoutMark f.chars) := by
  have hbounds : f.bodyStart ≤ f.lines.stop ∧ f.lines.stop ≤ f.chars.length :=
    ⟨f.bodyStart_le_stop, Nat.le_of_eq f.lines_stop⟩
  rw [SourceFile.span, SourceFile.spanBetween, hnumbered id f h, ← f.body_eq]
  simp only [slice?, h, Option.bind_some, if_pos hbounds]
  rw [SourceFile.body, f.lines_stop, ← List.length_drop, List.take_length]

theorem answersAlike_of_file?_eq (h : r'.file? id = r.file? id) : r.AnswersAlike r' id where
  file := h
  slice a b := by rw [slice?, slice?, h]
  line p := by rw [h]
  lines s := by rw [h]

theorem MakesSpan.ordered {s : Span} (h : r.MakesSpan s) : s.Ordered := by
  cases h with
  | file _ => exact SourceFile.ordered_span _
  | between _ _ h => exact Span.ordered_of_between h
  | point _ => exact Span.ordered_point _

/-- What is made from the files of a registry lies in one of them, if it lies in any file. -/
theorem MakesSpan.exists_file {s : Span} (hnumbered : r.Numbered) (h : r.MakesSpan s) :
    ∀ id, s.file? = some id → ∃ f, r.file? id = some f := by
  induction h using MakesSpan.rec
    (motive_2 := fun p _ => ∀ id, p.file? = some id → ∃ f, r.file? id = some f) with
  | @file id f h =>
      intro other hother
      rw [SourceFile.span, SourceFile.spanBetween, hnumbered id f h] at hother
      cases hother
      exact ⟨f, h⟩
  | between _ _ h hp _ => exact fun id hid => hp id (Span.file?_of_between h hid)
  | point _ hp => exact fun id hid => hp id (Span.file?_point _ ▸ hid)
  | nowhere id hid => cases hid
  | start _ hs id hid => exact hs id (Span.file?_start _ ▸ hid)
  | stop _ hs id hid => exact hs id (Span.file?_stop _ ▸ hid)
  | positionAt _ n hs id hid =>
      rw [Span.positionAt, Position.file?_offsetBy, Span.file?_start] at hid
      exact hs id hid
  | offsetBy _ n hp id hid => exact hp id (Position.file?_offsetBy n _ ▸ hid)

theorem Registered.numbered (h : r.Registered files spans) : r.Numbered := by
  intro id f hf
  rw [h.file?_eq] at hf
  obtain ⟨g, _, rfl⟩ := Option.map_eq_some_iff.mp hf
  rfl

theorem Registered.catalogue (h : r.Registered files spans) : r.Catalogue files spans where
  length := by rw [h.spans, h.files, List.length_map, List.length_mapIdx]
  file id f hf := by rw [h.file?_eq, hf, Option.map_some]
  span id f hf := by
    have hspan : spans[id.index]? = some (f.numbered id).span := by
      rw [h.spans_getElem?, h.file?_eq, hf, Option.map_some, Option.map_some]
    exact ⟨hspan, f.span_numbered id⟩
  text id f hf := by
    have hfile : r.file? id = some (f.numbered id) := by rw [h.file?_eq, hf, Option.map_some]
    exact slice?_span h.numbered hfile
  numbers _ := h.file?_isSome_iff
  own := h.numbered
  unknown id hid := by
    have hnone : r.file? id = none := by
      rw [Option.eq_none_iff_forall_ne_some]
      intro f hf
      exact Nat.not_lt_of_le (h.file?_isSome_iff.mp (Option.isSome_of_eq_some hf)).2 hid
    refine ⟨hnone, ?_, ?_⟩
    · intro a b
      rw [slice?, hnone, Option.bind_none]
    · intro other f hf offset
      refine if_neg fun hother => ?_
      obtain rfl : other = id := Option.some.inj ((h.numbered other f hf).symm.trans hother)
      cases hnone.symm.trans hf
  nowhere := ⟨rfl, rfl, fun f => ⟨rfl, rfl⟩⟩

/-- What is added later does not change what is known of the files before it. -/
theorem Registered.answersAlike (h : r.Registered files spans) (later : List SourceFile)
    (hid : id.number ≤ files.length) : r.AnswersAlike (r.addEach later).1 id := by
  refine answersAlike_of_file?_eq ?_
  rw [(h.addEach later).file?_eq, h.file?_eq, List.getElem?_append_left hid]

/-- Files that are registered one after another get the numbers from one on, and stay as they are
whatever is added later. Two positions of one file have one span between them, and every span made
from the files is in order and lies in one of them. -/
theorem catalogue_addEach (files later : List SourceFile) :
    let r := (addEach {} files).1
    r.Catalogue files (addEach {} files).2 ∧
      (∀ id, id.number ≤ files.length → r.AnswersAlike (r.addEach later).1 id) ∧
      (∀ p q : Position, p.file? = q.file? →
        ∃ s, Span.between p q = .ok s ∧ Span.between q p = .ok s) ∧
      ∀ s, r.MakesSpan s → s.Ordered ∧ ∀ id, s.file? = some id → ∃ f, r.file? id = some f := by
  intro r
  have h : r.Registered files (addEach {} files).2 := registered_empty.addEach files
  exact ⟨h.catalogue, fun id => h.answersAlike later, fun p q => Span.exists_between,
    fun s hs => ⟨hs.ordered, hs.exists_file h.numbered⟩⟩

/-- The span of a file with a byte order mark starts after it, and has the text without it. -/
example :
    let (r, spans) := addEach {} [⟨"plain", ['a'], none⟩, ⟨"marked", ['\ufeff', 'b', 'c'], none⟩]
    spans = [.within ⟨0⟩ 0 1, .within ⟨1⟩ 1 3] ∧ r.slice? (.within ⟨1⟩ 1 3) = some ['b', 'c'] := by
  decide +kernel

end

end Registry

end Frontend
