/- Which texts name a locale, and what is kept of them. -/
import Frontend.Locale
import Frontend.Proofs.Text.Run
import Frontend.Text.Utf8

namespace Frontend.Locale

/-- The part of a text that names a locale. -/
def namePart (s : String) : List Char := s.toList.takeWhile fun c => c ≠ '.' && c ≠ '@'

def isTagChar (c : Char) : Bool := c.isAlpha || c == '-' || c == '_'

/-- Two to eight bytes, all of them letters or separators, of which the first two are letters. -/
structure Acceptable (name : List Char) : Prop where
  long : 2 ≤ (String.ofList name).utf8ByteSize
  short : (String.ofList name).utf8ByteSize ≤ 8
  chars : ∀ c ∈ name, isTagChar c = true
  head : ∀ c ∈ name.take 2, c.isAlpha = true

/-- A letter in lower case, and a hyphen for either separator. -/
def normal (c : Char) : Char := if c = '_' then '-' else c.toLower

/-- A tag as it is stored: eight bytes, of which the first ones are the tag and the others zero. -/
structure Packed where
  bytes : Vector UInt8 8
  length : Nat
  deriving DecidableEq

namespace Packed

def normalByte? (b : UInt8) : Option UInt8 :=
  (normalChar? (Char.ofUInt8 b)).map Char.toUInt8

def ofBytes (tag : List UInt8) : Packed := ⟨Vector.ofFn fun i => tag.getD i 0, tag.length⟩

/-- Reads a name byte by byte. Its first two bytes are looked at in their normal form. -/
def read? (s : String) : Option Packed :=
  let name := (namePart s).flatMap String.utf8EncodeChar
  if 2 ≤ name.length ∧ name.length ≤ 8 then do
    let tag ← name.mapM normalByte?
    if (tag.take 2).all fun b => (Char.ofUInt8 b).isLower then some (ofBytes tag) else none
  else none

/-- The tag as a text, if its bytes are one. -/
def text? (p : Packed) : Option String :=
  (Text.decodeStrict? (p.bytes.toList.take p.length)).map String.ofList

end Packed

/-- What holds of each of the first 128 characters holds of every character that is one byte. -/
theorem forall_of_forall_lt {motive : Char → Prop} (h : ∀ n < 128, motive (Char.ofNat n)) {c : Char}
    (hc : c.toNat < 128) : motive c := by
  have hn := h c.toNat hc
  rwa [Char.ofNat_toNat] at hn

section
variable {c : Char} {name cs : List Char}

theorem lt_of_isAlpha (h : c.isAlpha = true) : c.toNat < 128 := by
  have hz : 'Z'.toNat < 128 ∧ 'z'.toNat < 128 := by decide
  rcases Bool.or_eq_true_iff.mp h with h | h
  · have hle : c.val ≤ 'Z'.val := (of_decide_eq_true h).2
    exact Nat.lt_of_le_of_lt (UInt32.le_iff_toNat_le.mp hle) hz.1
  · have hle : c.val ≤ 'z'.val := of_decide_eq_true (Bool.and_eq_true_iff.mp h).2
    exact Nat.lt_of_le_of_lt (UInt32.le_iff_toNat_le.mp hle) hz.2

theorem isTagChar_iff : isTagChar c = true ↔ c.isAlpha = true ∨ c = '-' ∨ c = '_' := by
  simp [isTagChar, or_assoc]

theorem lt_of_isTagChar (h : isTagChar c = true) : c.toNat < 128 := by
  rcases isTagChar_iff.mp h with h | rfl | rfl
  · exact lt_of_isAlpha h
  · decide
  · decide

theorem normalChar?_eq (c : Char) :
    normalChar? c = if isTagChar c = true then some (normal c) else none := by
  unfold normalChar? normal
  simp only [isTagChar_iff]
  by_cases hhyphen : c = '-'
  · subst hhyphen
    rfl
  · by_cases hlow : c = '_'
    · simp [hlow]
    · simp [hhyphen, hlow]

/-- The normal form of a character of a tag is one too, and stays as it is. -/
structure IsNormal (c : Char) : Prop where
  tagChar : isTagChar c = true
  normal : normal c = c
  goesOn : (c ≠ '.' && c ≠ '@') = true

theorem isNormal_normal (h : isTagChar c = true) : IsNormal (normal c) := by
  have hall : ∀ n < 128, isTagChar (Char.ofNat n) = true →
      isTagChar (normal (Char.ofNat n)) = true ∧
        normal (normal (Char.ofNat n)) = normal (Char.ofNat n) ∧
        (normal (Char.ofNat n) ≠ '.' && normal (Char.ofNat n) ≠ '@') = true := by decide +kernel
  obtain ⟨htag, hnormal, hgoesOn⟩ := forall_of_forall_lt
    (motive := fun c => isTagChar c = true → isTagChar (normal c) = true ∧
      normal (normal c) = normal c ∧ (normal c ≠ '.' && normal c ≠ '@') = true)
    hall (lt_of_isTagChar h) h
  exact ⟨htag, hnormal, hgoesOn⟩

theorem isLower_normal (h : isTagChar c = true) : (normal c).isLower = c.isAlpha :=
  forall_of_forall_lt (motive := fun c => isTagChar c = true → (normal c).isLower = c.isAlpha)
    (by decide +kernel) (lt_of_isTagChar h) h

/-- A character of a tag is a single byte. -/
theorem utf8EncodeChar_of_lt (h : c.toNat < 128) : String.utf8EncodeChar c = [c.toUInt8] :=
  String.utf8EncodeChar_eq_singleton
    (Char.utf8Size_eq_one_iff.mpr (UInt32.le_iff_toNat_le.mpr (Nat.le_of_lt_succ h)))

theorem ofUInt8_toUInt8 (h : c.toNat < 128) : Char.ofUInt8 c.toUInt8 = c :=
  forall_of_forall_lt (motive := fun c => Char.ofUInt8 c.toUInt8 = c) (by decide +kernel) h

theorem normalByte?_of_le {n : Nat} (hlow : 128 ≤ n) (hhigh : n < 256) :
    Packed.normalByte? (UInt8.ofNat n) = none := by
  have hcode : (Char.ofUInt8 (UInt8.ofNat n)).toNat = n := by
    change (UInt8.ofNat n).toUInt32.toNat = n
    rw [UInt8.toNat_toUInt32, UInt8.toNat_ofNat_of_lt' hhigh]
  have hother : ¬ isTagChar (Char.ofUInt8 (UInt8.ofNat n)) = true := by
    intro htag
    have := lt_of_isTagChar htag
    omega
  rw [Packed.normalByte?, normalChar?_eq, if_neg hother, Option.map_none]

/-- The first byte of any other character is no character of a tag. -/
theorem exists_utf8EncodeChar_of_not_lt (h : ¬ c.toNat < 128) :
    ∃ b bs, String.utf8EncodeChar c = b :: bs ∧ Packed.normalByte? b = none := by
  have hascii : ¬ c.val.toNat ≤ 127 := fun hle => h (Nat.lt_succ_of_le hle)
  simp only [String.utf8EncodeChar]
  rw [if_neg hascii]
  split
  · exact ⟨_, _, rfl, normalByte?_of_le (by omega) (by omega)⟩
  · split
    · exact ⟨_, _, rfl, normalByte?_of_le (by omega) (by omega)⟩
    · exact ⟨_, _, rfl, normalByte?_of_le (by omega) (by omega)⟩

theorem mapM_normalChar?_eq_some_iff : name.mapM normalChar? = some cs ↔
    (∀ c ∈ name, isTagChar c = true) ∧ name.map normal = cs := by
  induction name generalizing cs with
  | nil => simp
  | cons c name ih =>
      rw [List.mapM_cons, normalChar?_eq, List.forall_mem_cons, List.map_cons]
      split
      · rename_i hc
        simp only [Option.bind_eq_bind, Option.bind_some, Option.bind_eq_some_iff, ih]
        constructor
        · rintro ⟨ds, ⟨hname, rfl⟩, hcs⟩
          exact ⟨⟨hc, hname⟩, Option.some.inj hcs⟩
        · rintro ⟨⟨_, hname⟩, hcs⟩
          exact ⟨_, ⟨hname, rfl⟩, congrArg some hcs⟩
      · rename_i hc
        exact iff_of_false nofun fun h => hc h.1.1

theorem mapM_normalByte?_eq (name : List Char) :
    (name.flatMap String.utf8EncodeChar).mapM Packed.normalByte? =
      (name.mapM normalChar?).map (·.map Char.toUInt8) := by
  induction name with
  | nil => rfl
  | cons c name ih =>
      rw [List.flatMap_cons, List.mapM_cons]
      by_cases hc : c.toNat < 128
      · rw [utf8EncodeChar_of_lt hc, List.singleton_append, List.mapM_cons, ih,
          Packed.normalByte?, ofUInt8_toUInt8 hc]
        cases normalChar? c with
        | none => rfl
        | some d => cases name.mapM normalChar? <;> rfl
      · obtain ⟨b, bs, hbytes, hb⟩ := exists_utf8EncodeChar_of_not_lt hc
        have hnone : normalChar? c = none := by
          rw [normalChar?_eq, if_neg (mt lt_of_isTagChar hc)]
        rw [hbytes, List.cons_append, List.mapM_cons, hb, hnone]
        rfl

theorem flatMap_utf8EncodeChar_length (name : List Char) :
    (name.flatMap String.utf8EncodeChar).length = (String.ofList name).utf8ByteSize := by
  rw [← String.size_toByteArray, String.toByteArray_ofList, List.utf8Encode, List.size_toByteArray]

theorem flatMap_utf8EncodeChar_of_lt (h : ∀ c ∈ name, c.toNat < 128) :
    name.flatMap String.utf8EncodeChar = name.map Char.toUInt8 := by
  induction name with
  | nil => rfl
  | cons c name ih =>
      obtain ⟨hc, hname⟩ := List.forall_mem_cons.mp h
      rw [List.flatMap_cons, utf8EncodeChar_of_lt hc, ih hname, List.map_cons,
        List.singleton_append]

/-- The characters of a tag are as many as its bytes. -/
theorem utf8ByteSize_eq_length (h : ∀ c ∈ name, isTagChar c = true) :
    (String.ofList name).utf8ByteSize = name.length := by
  rw [← flatMap_utf8EncodeChar_length,
    flatMap_utf8EncodeChar_of_lt fun c hc => lt_of_isTagChar (h c hc), List.length_map]

theorem decodeOne_of_lt (h : c.toNat < 128) (bs : List UInt8) :
    Text.decodeOne c.toUInt8 bs = (some c, bs) := by
  have hlead : c.toUInt8 < 0x80 := forall_of_forall_lt (motive := fun c => c.toUInt8 < 0x80)
    (by decide +kernel) h
  have hcode : Char.ofNat c.toUInt8.toNat = c :=
    forall_of_forall_lt (motive := fun c => Char.ofNat c.toUInt8.toNat = c) (by decide +kernel) h
  rw [Text.decodeOne, Text.Continuation.ofLead?, if_pos hlead]
  simp only [Text.readContinuation, Text.leadBits, Option.map_some, hcode]

theorem decodePieces_of_lt (h : ∀ c ∈ cs, c.toNat < 128) :
    Text.decodePieces (cs.map Char.toUInt8) = cs.map some := by
  induction cs with
  | nil => rw [List.map_nil, Text.decodePieces, List.map_nil]
  | cons c cs ih =>
      obtain ⟨hc, hcs⟩ := List.forall_mem_cons.mp h
      rw [List.map_cons, Text.decodePieces, decodeOne_of_lt hc, ih hcs, List.map_cons]

theorem decodeStrict?_of_lt (h : ∀ c ∈ cs, c.toNat < 128) :
    Text.decodeStrict? (cs.map Char.toUInt8) = some cs := by
  rw [Text.decodeStrict?, decodePieces_of_lt h]
  induction cs with
  | nil => rfl
  | cons c cs ih =>
      rw [List.map_cons, List.mapM_cons, ih fun d hd => h d (List.mem_cons_of_mem _ hd)]
      rfl

theorem take_ofBytes {bs : List UInt8} (h : bs.length ≤ 8) :
    (Packed.ofBytes bs).bytes.toList.take (Packed.ofBytes bs).length = bs := by
  refine List.ext_getElem (by simp [Packed.ofBytes, Nat.min_eq_left h]) ?_
  intro i _ hi
  simp [Packed.ofBytes, hi]

theorem text?_ofBytes (h : ∀ c ∈ cs, c.toNat < 128) (hlength : cs.length ≤ 8) :
    (Packed.ofBytes (cs.map Char.toUInt8)).text? = some (String.ofList cs) := by
  rw [Packed.text?, take_ofBytes (by rwa [List.length_map]), decodeStrict?_of_lt h,
    Option.map_some]

/-- Looked at in their normal form, the first two bytes are lower-case letters just if the first
two characters are letters. -/
theorem all_isLower_take (h : ∀ c ∈ name, isTagChar c = true) (n : Nat) :
    ((((name.map normal).map Char.toUInt8).take n).all fun b => (Char.ofUInt8 b).isLower) =
      (name.take n).all Char.isAlpha := by
  rw [List.map_map, ← List.map_take, List.all_map, Bool.eq_iff_iff, List.all_eq_true,
    List.all_eq_true]
  refine forall₂_congr fun c hc => ?_
  have hchar := h c (List.mem_of_mem_take hc)
  have hnormal := lt_of_isTagChar (isNormal_normal hchar).tagChar
  simp only [Function.comp_apply, ofUInt8_toUInt8 hnormal, isLower_normal hchar]

end

variable {s t : String} {l : Locale} {p q : Packed} {name : List Char}

theorem parse?_eq_some_iff : parse? s = some l ↔
    Acceptable (namePart s) ∧ l.tag = String.ofList ((namePart s).map normal) := by
  have hname : (s.toList.takeWhile fun c => c ≠ '.' && c ≠ '@') = namePart s := rfl
  rw [parse?, hname]
  constructor
  · intro h
    split at h
    · rename_i hchecks
      obtain ⟨cs, hcs, rfl⟩ := Option.map_eq_some_iff.mp h
      obtain ⟨hchars, rfl⟩ := mapM_normalChar?_eq_some_iff.mp hcs
      obtain ⟨hlong, hshort, hhead⟩ := hchecks
      rw [← utf8ByteSize_eq_length hchars] at hlong hshort
      exact ⟨⟨hlong, hshort, hchars, List.all_eq_true.mp hhead⟩, rfl⟩
    · cases h
  · rintro ⟨⟨hlong, hshort, hchars, hhead⟩, htag⟩
    rw [utf8ByteSize_eq_length hchars] at hlong hshort
    rw [if_pos ⟨hlong, hshort, List.all_eq_true.mpr hhead⟩,
      mapM_normalChar?_eq_some_iff.mpr ⟨hchars, rfl⟩, Option.map_some, ← htag]

theorem parse?_of_acceptable (h : Acceptable (namePart s)) :
    parse? s = some ⟨String.ofList ((namePart s).map normal)⟩ :=
  parse?_eq_some_iff.mpr ⟨h, rfl⟩

theorem read?_eq_some_iff : Packed.read? s = some p ↔
    Acceptable (namePart s) ∧
      p = Packed.ofBytes (((namePart s).map normal).map Char.toUInt8) := by
  rw [Packed.read?, flatMap_utf8EncodeChar_length, mapM_normalByte?_eq]
  constructor
  · intro h
    split at h
    · rename_i hlength
      obtain ⟨_, htag, h⟩ := Option.bind_eq_some_iff.mp h
      obtain ⟨cs, hcs, rfl⟩ := Option.map_eq_some_iff.mp htag
      obtain ⟨hchars, rfl⟩ := mapM_normalChar?_eq_some_iff.mp hcs
      rw [all_isLower_take hchars] at h
      split at h
      · rename_i hhead
        exact ⟨⟨hlength.1, hlength.2, hchars, List.all_eq_true.mp hhead⟩, (Option.some.inj h).symm⟩
      · cases h
    · cases h
  · rintro ⟨⟨hlong, hshort, hchars, hhead⟩, rfl⟩
    rw [if_pos ⟨hlong, hshort⟩, mapM_normalChar?_eq_some_iff.mpr ⟨hchars, rfl⟩]
    dsimp only [Option.map_some, Option.bind_eq_bind, Option.bind_some]
    rw [if_pos ((all_isLower_take hchars 2).trans (List.all_eq_true.mpr hhead))]

/-- The normal form of a name is a name, and its own normal form. -/
structure IsNormalName (name : List Char) : Prop where
  acceptable : Acceptable name
  map_normal : name.map normal = name
  namePart : namePart (String.ofList name) = name

theorem Acceptable.isNormalName (h : Acceptable name) : IsNormalName (name.map normal) := by
  have hnormal : ∀ c ∈ name.map normal, IsNormal c :=
    List.forall_mem_map.mpr fun c hc => isNormal_normal (h.chars c hc)
  have hchars : ∀ c ∈ name.map normal, isTagChar c = true := fun c hc => (hnormal c hc).tagChar
  have hbytes : (String.ofList (name.map normal)).utf8ByteSize =
      (String.ofList name).utf8ByteSize := by
    rw [utf8ByteSize_eq_length hchars, utf8ByteSize_eq_length h.chars, List.length_map]
  refine ⟨⟨hbytes ▸ h.long, hbytes ▸ h.short, hchars, ?_⟩, ?_, ?_⟩
  · rw [← List.map_take]
    refine List.forall_mem_map.mpr fun c hc => ?_
    have hlower := isLower_normal (h.chars c (List.mem_of_mem_take hc))
    exact Bool.or_eq_true_iff.mpr (.inr (hlower.trans (h.head c hc)))
  · exact (List.map_congr_left fun c hc => (hnormal c hc).normal).trans (List.map_id _)
  · rw [Locale.namePart, String.toList_ofList]
    exact List.takeWhile_eq_self_iff.mpr fun c hc => (hnormal c hc).goesOn

/-- The two letters at the start of a name are in the part of it before the first hyphen. -/
theorem Acceptable.two_le_language (h : Acceptable name) :
    2 ≤ ((name.map normal).takeWhile (· ≠ '-')).length := by
  have hlong : 2 ≤ name.length := utf8ByteSize_eq_length h.chars ▸ h.long
  have hstart : ∀ c ∈ (name.map normal).take 2, decide (c ≠ '-') = true := by
    rw [← List.map_take]
    refine List.forall_mem_map.mpr fun c hc => decide_eq_true ?_
    intro hhyphen
    have hlower := isLower_normal (h.chars c (List.mem_of_mem_take hc))
    rw [hhyphen, h.head c hc] at hlower
    exact absurd hlower (by decide)
  rw [← List.take_append_drop 2 (name.map normal), List.takeWhile_append_of_pos hstart,
    List.length_append, List.length_take, List.length_map, Nat.min_eq_left hlong]
  exact Nat.le_add_right _ _

/-- What a text that names a locale is read as. -/
structure Reading (s : String) (l : Locale) : Prop where
  tag : l.tag = String.ofList ((namePart s).map normal)
  again : parse? l.tag = some l
  language : ∃ rest, l.tag.toList = l.language.toList ++ rest ∧ '-' ∉ l.language.toList ∧
    ∀ c ∈ rest.head?, c = '-'
  long : 2 ≤ l.language.length

theorem language_spec (l : Locale) :
    ∃ rest, l.tag.toList = l.language.toList ++ rest ∧ '-' ∉ l.language.toList ∧
      ∀ c ∈ rest.head?, c = '-' := by
  rw [language, String.toList_ofList]
  refine ⟨l.tag.toList.dropWhile (· ≠ '-'), List.takeWhile_append_dropWhile.symm, ?_, ?_⟩
  · intro hmem
    have hkept := List.mem_takeWhile_imp hmem
    exact of_decide_eq_true hkept rfl
  · intro c hc
    exact of_not_not (of_decide_eq_false (Text.head_dropWhile _ c hc))

theorem reading_of_parse? (h : parse? s = some l) : Reading s l := by
  obtain ⟨hname, htag⟩ := parse?_eq_some_iff.mp h
  have hnormal := hname.isNormalName
  refine ⟨htag, ?_, language_spec l, ?_⟩
  · rw [parse?_eq_some_iff, htag, hnormal.namePart, hnormal.map_normal]
    exact ⟨hnormal.acceptable, rfl⟩
  · rw [language, String.length_ofList, htag, String.toList_ofList]
    exact hname.two_le_language

theorem text?_of_read? (h : Packed.read? s = some p) :
    p.text? = some (String.ofList ((namePart s).map normal)) := by
  obtain ⟨hname, rfl⟩ := read?_eq_some_iff.mp h
  refine text?_ofBytes ?_ ?_
  · exact fun c hc => lt_of_isTagChar (hname.isNormalName.acceptable.chars c hc)
  · rw [List.length_map, ← utf8ByteSize_eq_length hname.chars]
    exact hname.short

/-- The stored bytes are never ill-formed, so they always have the tag as their text. -/
theorem map_text?_read? (s : String) :
    (Packed.read? s).map Packed.text? = (parse? s).map (some ·.tag) := by
  by_cases hname : Acceptable (namePart s)
  · have hread := read?_eq_some_iff.mpr ⟨hname, rfl⟩
    rw [parse?_of_acceptable hname, hread, Option.map_some, Option.map_some, text?_of_read? hread]
  · have hread : Packed.read? s = none :=
      Option.eq_none_iff_forall_ne_some.mpr fun _ h => hname (read?_eq_some_iff.mp h).1
    have hparse : parse? s = none :=
      Option.eq_none_iff_forall_ne_some.mpr fun _ h => hname (parse?_eq_some_iff.mp h).1
    rw [hread, hparse, Option.map_none, Option.map_none]

theorem eq_of_text?_eq (hp : Packed.read? s = some p) (hq : Packed.read? t = some q)
    (h : p.text? = q.text?) : p = q := by
  rw [text?_of_read? hp, text?_of_read? hq, Option.some.injEq, String.ofList_inj] at h
  rw [(read?_eq_some_iff.mp hp).2, (read?_eq_some_iff.mp hq).2, h]

/-- Just the texts whose part before a `.` or `@` is acceptable name a locale. Its tag is the normal
form of that part, is read as the same locale, and tells locales apart. The stored bytes are those
of the tag, and tell locales apart as well. -/
theorem parse?_normalizes (s t : String) :
    ((parse? s).isSome = true ↔ Acceptable (namePart s)) ∧
      (∀ l ∈ parse? s, Reading s l) ∧
      (∀ l ∈ parse? s, ∀ m ∈ parse? t, l = m ↔ l.tag = m.tag) ∧
      (Packed.read? s).map Packed.text? = (parse? s).map (some ·.tag) ∧
      ∀ p ∈ Packed.read? s, ∀ q ∈ Packed.read? t, p = q ↔ p.text? = q.text? := by
  refine ⟨?_, ?_, ?_, map_text?_read? s, ?_⟩
  · rw [Option.isSome_iff_exists]
    constructor
    · rintro ⟨l, hl⟩
      exact (parse?_eq_some_iff.mp hl).1
    · exact fun hname => ⟨_, parse?_of_acceptable hname⟩
  · exact fun l hl => reading_of_parse? hl
  · rintro ⟨_⟩ _ ⟨_⟩ _
    rw [Locale.mk.injEq]
  · intro p hp q hq
    exact ⟨congrArg _, eq_of_text?_eq hp hq⟩

example : parse? "ko_KR.UTF-8" = some ⟨"ko-kr"⟩ := by decide

end Frontend.Locale
