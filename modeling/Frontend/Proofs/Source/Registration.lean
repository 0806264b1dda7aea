/- Files that are registered one after another. -/
import Frontend.Source.File

namespace Frontend.Registry

/-- The registry after these files have been added to an empty one, one by one. -/
def ofFiles (files : List SourceFile) : Registry := files.foldl (fun r f => (r.add f).1) {}

/-- A file stays where it is when others are added. -/
theorem file?_addAll {r : Registry} {id : FileId} {f : SourceFile} (h : r.file? id = some f)
    (files : List SourceFile) : (r.addAll files).file? id = some f := by
  induction files generalizing r with
  | nil => exact h
  | cons g files ih =>
      have hlt : id.index < r.files.length := (List.getElem?_eq_some_iff.mp h).1
      have hadd : (r.add g).1.file? id = some f := (List.getElem?_append_left hlt).trans h
      exact ih hadd

/-- Every file knows its number. -/
def Numbered (r : Registry) : Prop := ∀ id f, r.file? id = some f → f.id? = some id

theorem Numbered.add {r : Registry} (h : r.Numbered) (f : SourceFile) : (r.add f).1.Numbered := by
  intro id g hg
  have hg : (r.files ++ [{ f with id? := some ⟨r.files.length⟩ }])[id.index]? = some g := hg
  by_cases hlt : id.index < r.files.length
  · rw [List.getElem?_append_left hlt] at hg
    exact h id g hg
  · rw [List.getElem?_append_right (Nat.le_of_not_lt hlt), List.getElem?_singleton] at hg
    split at hg
    · cases hg
      have hindex : r.files.length = id.index := by omega
      exact congrArg (fun n => some (FileId.mk n)) hindex
    · cases hg

theorem numbered_empty : Numbered {} := nofun

theorem Numbered.addAll {r : Registry} (h : r.Numbered) (files : List SourceFile) :
    (r.addAll files).Numbered := by
  induction files generalizing r with
  | nil => exact h
  | cons f files ih => exact ih (h.add f)

theorem numbered_ofFiles (files : List SourceFile) : (ofFiles files).Numbered :=
  numbered_empty.addAll files

end Frontend.Registry
