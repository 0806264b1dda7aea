/- The characters of a span, and how they divide when the span is cut in two. -/
import Frontend.Source.File

namespace Frontend

/-- The offsets from `a` to `b` lie in order within the span of the file with the number `id`. -/
structure Registry.Encloses (r : Registry) (f : SourceFile) (id : FileId) (a b : Nat) : Prop where
  file : r.file? id = some f
  start_le : f.bodyStart ≤ a
  ordered : a ≤ b
  le_stop : b ≤ f.lines.stop

namespace SourceFile

theorem bodyStart_le_length (f : SourceFile) : f.bodyStart ≤ f.chars.length := by
  unfold bodyStart
  split
  · rename_i h
    exact List.length_pos_iff.mpr (List.ne_nil_of_mem (List.mem_of_mem_head? h))
  · exact Nat.zero_le _

theorem lines_stop (f : SourceFile) : f.lines.stop = f.chars.length := by
  have h := f.bodyStart_le_length
  simp only [lines, LineTable.ofText, body, List.length_drop]
  omega

end SourceFile

namespace Registry

variable {r : Registry} {id : FileId} {a b : Nat}

/-- The characters of a span are what stands in the file between two texts of the right lengths. -/
theorem slice?_eq_some_iff {text : List Char} :
    r.slice? (.within id a b) = some text ↔
      ∃ f before after, r.file? id = some f ∧ f.chars = before ++ text ++ after ∧
        before.length = a ∧ a + text.length = b := by
  constructor
  · intro h
    obtain ⟨f, hf, hslice⟩ := Option.bind_eq_some_iff.mp h
    split at hslice
    · rename_i hbounds
      cases hslice
      refine ⟨f, f.chars.take a, (f.chars.drop a).drop (b - a), hf, ?_, ?_, ?_⟩
      · rw [List.append_assoc, List.take_append_drop, List.take_append_drop]
      · rw [List.length_take]
        omega
      · rw [List.length_take, List.length_drop]
        omega
    · cases hslice
  · rintro ⟨f, before, after, hf, hchars, rfl, rfl⟩
    have hbounds : before.length ≤ before.length + text.length ∧
        before.length + text.length ≤ f.chars.length := by
      rw [hchars]
      simp
    have hcut : (f.chars.drop before.length).take
        (before.length + text.length - before.length) = text := by
      rw [hchars, List.append_assoc, List.drop_left, Nat.add_sub_cancel_left, List.take_left]
    simp only [slice?, hf, Option.bind_some, if_pos hbounds, hcut]

theorem slice?_length {text : List Char} (h : r.slice? (.within id a b) = some text) :
    a + text.length = b := by
  obtain ⟨f, before, after, hf, hchars, hbefore, hlength⟩ := slice?_eq_some_iff.mp h
  exact hlength

theorem slice?_append_left {u v : List Char} (h : r.slice? (.within id a b) = some (u ++ v)) :
    r.slice? (.within id a (a + u.length)) = some u := by
  obtain ⟨f, before, after, hf, hchars, hbefore, hlength⟩ := slice?_eq_some_iff.mp h
  refine slice?_eq_some_iff.mpr ⟨f, before, v ++ after, hf, ?_, hbefore, rfl⟩
  rw [hchars]
  simp only [List.append_assoc]

theorem slice?_append_right {u v : List Char} (h : r.slice? (.within id a b) = some (u ++ v)) :
    r.slice? (.within id (a + u.length) b) = some v := by
  obtain ⟨f, before, after, hf, hchars, rfl, rfl⟩ := slice?_eq_some_iff.mp h
  refine slice?_eq_some_iff.mpr ⟨f, before ++ u, after, hf, ?_, List.length_append, ?_⟩
  · rw [hchars]
    simp only [List.append_assoc]
  · rw [List.length_append, Nat.add_assoc]

theorem slice?_append {u v : List Char} {c : Nat} (hu : r.slice? (.within id a b) = some u)
    (hv : r.slice? (.within id b c) = some v) : r.slice? (.within id a c) = some (u ++ v) := by
  obtain ⟨f, before, after, hf, hchars, rfl, rfl⟩ := slice?_eq_some_iff.mp hu
  obtain ⟨f', before', after', hf', hchars', hbefore, rfl⟩ := slice?_eq_some_iff.mp hv
  obtain rfl : f = f' := Option.some.inj (hf.symm.trans hf')
  have hsame : before ++ u ++ after = before' ++ (v ++ after') := by
    rw [← hchars, hchars', List.append_assoc]
  obtain ⟨rfl, rfl⟩ := List.append_inj hsame (by rw [hbefore, List.length_append])
  refine slice?_eq_some_iff.mpr ⟨f, before, after', hf, ?_, rfl, ?_⟩
  · rw [hchars]
    simp only [List.append_assoc]
  · rw [List.length_append, Nat.add_assoc]

theorem slice?_split {text : List Char} {p : Nat} (h : r.slice? (.within id a b) = some text)
    (ha : a ≤ p) (hb : p ≤ b) : ∃ u v, text = u ++ v ∧ a + u.length = p ∧
      r.slice? (.within id a p) = some u ∧ r.slice? (.within id p b) = some v := by
  have hlength := slice?_length h
  have hu : a + (text.take (p - a)).length = p := by
    rw [List.length_take]
    omega
  have hsplit : text = text.take (p - a) ++ text.drop (p - a) := (List.take_append_drop _ _).symm
  rw [hsplit] at h
  have hleft := slice?_append_left h
  have hright := slice?_append_right h
  rw [hu] at hleft hright
  exact ⟨_, _, hsplit, hu, hleft, hright⟩

theorem getElem?_of_slice? {f : SourceFile} {text : List Char} (hf : r.file? id = some f)
    (h : r.slice? (.within id a b) = some text) {k : Nat} (hk : k < text.length) :
    f.chars[a + k]? = text[k]? := by
  obtain ⟨f', before, after, hf', hchars, rfl, _⟩ := slice?_eq_some_iff.mp h
  obtain rfl : f = f' := Option.some.inj (hf.symm.trans hf')
  rw [hchars, List.append_assoc, List.getElem?_append_right (Nat.le_add_right _ _),
    Nat.add_sub_cancel_left, List.getElem?_append_left hk]

theorem Encloses.slice? {f : SourceFile} (h : r.Encloses f id a b) :
    ∃ text, r.slice? (.within id a b) = some text := by
  have hbounds : a ≤ b ∧ b ≤ f.chars.length := ⟨h.ordered, f.lines_stop ▸ h.le_stop⟩
  refine ⟨(f.chars.drop a).take (b - a), ?_⟩
  simp only [Registry.slice?, h.file, Option.bind_some, if_pos hbounds]

end Registry

end Frontend
