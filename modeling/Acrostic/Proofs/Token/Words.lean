import Acrostic.Proofs.Charset.Normalize
import Acrostic.Proofs.Text.Words
import Acrostic.Proofs.Token

namespace Acrostic

open Text (IsSolid)
open Unicode

section Segments

-- The segments are the whole text, one behind the other.
theorem flatten_segmentsFrom (before : Preceding) (segment text : List Char) :
    (segmentsFrom before segment [] text).flatten = segment.reverse ++ text := by
  induction text generalizing before segment with
  | nil => simp [segmentsFrom]
  | cons c text ih =>
    simp only [segmentsFrom]
    split
    · rw [segmentsFrom_done, List.flatten_append, ih]
      simp
    · rw [ih]
      simp

theorem flatten_segments (text : List Char) : (segments text).flatten = text := by
  cases text with
  | nil => rfl
  | cons c text => exact flatten_segmentsFrom _ [c] text

theorem ne_nil_of_mem_segmentsFrom {before : Preceding} {segment text piece : List Char}
    (hsegment : segment ≠ []) (h : piece ∈ segmentsFrom before segment [] text) : piece ≠ [] := by
  induction text generalizing before segment with
  | nil =>
    have hpiece : piece = segment.reverse := by simpa [segmentsFrom] using h
    rw [hpiece]
    simpa using hsegment
  | cons c text ih =>
    simp only [segmentsFrom] at h
    split at h
    · rw [segmentsFrom_done, List.mem_append] at h
      cases h with
      | inl hdone =>
        have hpiece : piece = segment.reverse := by simpa using hdone
        rw [hpiece]
        simpa using hsegment
      | inr hrest => exact ih (by simp) hrest
    · exact ih (by simp) h

theorem ne_nil_of_mem_segments {text piece : List Char} (h : piece ∈ segments text) :
    piece ≠ [] := by
  cases text with
  | nil => simp [segments] at h
  | cons c text => exact ne_nil_of_mem_segmentsFrom (by simp) h

theorem isSolid_of_mem_segments {text piece : List Char} (htext : IsSolid text)
    (h : piece ∈ segments text) : IsSolid piece := by
  intro c hc
  apply htext
  rw [← flatten_segments text]
  exact List.mem_flatten.mpr ⟨piece, h, hc⟩

end Segments

-- The segments of a text without white space are its tokens.
theorem tokenize_of_isSolid {text : List Char} (h : IsSolid text) :
    tokenize text = segments text := by
  have htrim : (segments text).map Text.trim = segments text := by
    conv => rhs; rw [← List.map_id (segments text)]
    apply List.map_congr_left
    intro piece hpiece
    exact Text.trim_of_isSolid (isSolid_of_mem_segments h hpiece)
  rw [tokenize, htrim, List.filter_eq_self]
  intro piece hpiece
  simpa using ne_nil_of_mem_segments hpiece

-- ASCII text with no other white space than blanks
def IsSpaced (text : List Char) : Prop :=
  ∀ c ∈ text, c.toNat < 0x80 ∧ (isWhiteSpace c = true → IsBlank c)

namespace IsSpaced

variable {text more : List Char} {c : Char}

theorem isAscii (h : IsSpaced text) (hc : c ∈ text) : c.toNat < 0x80 :=
  (h c hc).1

theorem ne_return (h : IsSpaced text) (hc : c ∈ text) : c ≠ '\r' := by
  rintro rfl
  have hblank : IsBlank '\r' := (h _ hc).2 (by decide)
  revert hblank
  simp [IsBlank]

theorem left (h : IsSpaced (text ++ more)) : IsSpaced text :=
  fun c hc => h c (List.mem_append_left more hc)

theorem right (h : IsSpaced (text ++ c :: more)) : IsSpaced more :=
  fun d hd => h d (by simp [hd])

end IsSpaced

-- No boundary rule joins text across a blank, or sees what is behind one.
theorem tokenize_eq_flatMap_words {text : List Char} (h : IsSpaced text) :
    tokenize text = (Text.words text).flatMap segments := by
  have hsolid {text : List Char} (h : IsSolid text) :
      tokenize text = (Text.words text).flatMap segments := by
    rw [tokenize_of_isSolid h, Text.words_of_isSolid h]
    cases text <;> simp [segments]
  induction text using Text.words_induction with
  | solid text htext => exact hsolid htext
  | blank first c rest hfirst hc ih =>
    have hblank : IsBlank c := (h c (by simp)).2 hc
    have htokens := tokenize_append_blank hblank
      (fun d hd => ⟨h.left.isAscii hd, h.left.ne_return hd⟩) (fun d hd => h.right.isAscii hd)
    rw [htokens, hsolid hfirst, ih h.right, Text.words_append hc, List.flatMap_append]

theorem flatten_flatMap_segments (words : List (List Char)) :
    (words.flatMap segments).flatten = words.flatten := by
  induction words with
  | nil => rfl
  | cons word words ih => simp [flatten_segments, ih]

theorem isSolid_of_mem_tokenize {text : List Char} {token : Token} (h : IsSpaced text)
    (htoken : token ∈ tokenize text) : token ≠ [] ∧ IsSolid token := by
  rw [tokenize_eq_flatMap_words h] at htoken
  obtain ⟨word, hword, hpiece⟩ := List.mem_flatMap.mp htoken
  exact ⟨ne_nil_of_mem_segments hpiece, isSolid_of_mem_segments (Text.mem_words hword).2 hpiece⟩

theorem flatten_tokenize {text : List Char} (h : IsSpaced text) :
    (tokenize text).flatten = text.filter (¬ IsBlank ·) := by
  rw [tokenize_eq_flatMap_words h, flatten_flatMap_segments, Text.flatten_words]
  apply List.filter_congr
  intro c hc
  have hiff : isWhiteSpace c = true ↔ IsBlank c := ⟨(h c hc).2, isWhiteSpace_blank⟩
  cases hspace : isWhiteSpace c <;> simp [← hiff, hspace]

section Normalize

theorem isBlank_of_holds {charset : Charset} {c : Char} (h : charset.holds c = true)
    (hspace : isWhiteSpace c = true) : IsBlank c := by
  have hpoints : ∀ point < 0x80, charset.holds (Char.ofNat point) = true →
      isWhiteSpace (Char.ofNat point) = true → IsBlank (Char.ofNat point) := by
    cases charset <;> decide
  exact forall_ascii (P := fun c => charset.holds c = true → isWhiteSpace c = true → IsBlank c)
    hpoints (Charset.toNat_lt_of_holds h) h hspace

theorem isSpaced_normalize (charset : Charset) (phrase : List Char) :
    IsSpaced (charset.normalize phrase) := by
  intro c hc
  have hholds := Charset.holds_of_mem_normalize hc
  exact ⟨Charset.toNat_lt_of_holds hholds, isBlank_of_holds hholds⟩

-- The tokens of a phrase in an alphabet are all of it but its blanks, and those of a word are
-- decided by the word alone.
theorem tokenize_normalize (charset : Charset) (phrase : List Char) :
    let text := charset.normalize phrase
    (∀ token ∈ tokenize text, token ≠ [] ∧ ∀ c ∈ token, isWhiteSpace c = false) ∧
      (tokenize text).flatten = text.filter (¬ IsBlank ·) ∧
      tokenize text = (Text.words text).flatMap tokenize := by
  intro text
  have hspaced : IsSpaced text := isSpaced_normalize charset phrase
  refine ⟨fun token htoken => isSolid_of_mem_tokenize hspaced htoken, flatten_tokenize hspaced, ?_⟩
  rw [tokenize_eq_flatMap_words hspaced]
  apply List.flatMap_congr
  intro word hword
  exact (tokenize_of_isSolid (Text.mem_words hword).2).symm

end Normalize

end Acrostic
