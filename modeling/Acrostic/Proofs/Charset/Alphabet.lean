import Acrostic.Proofs.Charset.Normalize

namespace Acrostic.Charset

open Unicode

section AsciiText

variable {text : List Char}

-- An ASCII character is not spelled out, and no decomposition has another character for it.
theorem asciiOf_ascii {c : Char} (h : isAscii c = true) : asciiOf c = [c] := by
  have hc : c.toNat < 0x80 := of_decide_eq_true h
  have hspelling : spelling? c = none :=
    forall_ascii (P := fun c => spelling? c = none) (by decide) hc
  have hcompatibility : compatibilityChar c = [c] := if_pos hc
  have hcanonical : canonicalChar c = [c] := if_pos hc
  have hpart : asciiPart c = [c] := by
    rw [asciiPart, hcanonical, List.filter_cons_of_pos h, List.filter_nil]
  rw [asciiOf, hspelling, Option.getD_none, List.flatMap_singleton, hcompatibility,
    List.flatMap_singleton, hpart]

-- So the symbols and the two normalization forms take nothing from such a text and put nothing in.
theorem asciiText_of_ascii (h : ∀ c ∈ text, isAscii c = true) : asciiText text = text := by
  rw [asciiText_eq_flatMap]
  induction text with
  | nil => rfl
  | cons c text ih =>
    obtain ⟨hc, htext⟩ := List.forall_mem_cons.mp h
    rw [List.flatMap_cons, asciiOf_ascii hc, ih htext, List.singleton_append]

end AsciiText

section Alphabet

variable {charset : Charset} {text : List Char}

theorem isAscii_of_holds {c : Char} (h : charset.holds c = true) : isAscii c = true :=
  decide_eq_true (toNat_lt_of_holds h)

theorem asciiText_of_holds (h : ∀ c ∈ text, charset.holds c = true) : asciiText text = text :=
  asciiText_of_ascii fun c hc => isAscii_of_holds (h c hc)

-- A small letter or a blank is kept, and has no other lowercase form.
theorem isLetterOrSpace_of_holds {c : Char} (h : lowercaseLetters.holds c = true) :
    isLetterOrSpace c = true ∧ c.toLower = c :=
  forall_ascii
    (P := fun c => lowercaseLetters.holds c = true → isLetterOrSpace c = true ∧ c.toLower = c)
    (by decide) (toNat_lt_of_holds h) h

-- No pass changes a text that is in the alphabet.
theorem normalize_of_holds (h : ∀ c ∈ text, charset.holds c = true) :
    charset.normalize text = text := by
  cases charset with
  | ascii =>
    rw [normalize_ascii, asciiText_of_holds h, dropControls, List.filter_eq_self]
    intro c hc
    have hvisible := h c hc
    simp only [holds, Bool.and_eq_true, decide_eq_true_eq] at hvisible
    simp only [isControl, Bool.not_eq_true', Bool.or_eq_false_iff, decide_eq_false_iff_not,
      beq_eq_false_iff_ne]
    omega
  | lowercaseLetters =>
    have hletters : keepLettersAndSpaces text = text :=
      List.filter_eq_self.mpr fun c hc => (isLetterOrSpace_of_holds (h c hc)).1
    have hlower : text.map Char.toLower = text.map id :=
      List.map_congr_left fun c hc => (isLetterOrSpace_of_holds (h c hc)).2
    rw [normalize_lowercaseLetters, asciiText_of_holds h, hletters, hlower, List.map_id]

-- What is cast is in the alphabet, and exactly the texts of the alphabet are left as they are.
theorem normalize_eq_self_iff (charset : Charset) (text : List Char) :
    (∀ c ∈ charset.normalize text, charset.holds c = true) ∧
      (charset.normalize text = text ↔ ∀ c ∈ text, charset.holds c = true) ∧
      charset.normalize (charset.normalize text) = charset.normalize text := by
  have hlands : ∀ c ∈ charset.normalize text, charset.holds c = true :=
    fun c hc => holds_of_mem_normalize hc
  refine ⟨hlands, ⟨fun heq => ?_, normalize_of_holds⟩, normalize_of_holds hlands⟩
  rwa [heq] at hlands

end Alphabet

section Agreement

-- Of the letters and blanks, the controls are the tab and the line feed, before lowercasing and
-- after it.
theorem not_isControl_eq {c : Char} (h : isLetterOrSpace c = true) :
    (!isControl c) = decide (c.toLower ≠ '\t' ∧ c.toLower ≠ '\n') :=
  forall_ascii
    (P := fun c => isLetterOrSpace c = true →
      (!isControl c) = decide (c.toLower ≠ '\t' ∧ c.toLower ≠ '\n'))
    (by decide) (of_decide_eq_true (isAscii_of_isLetterOrSpace h)) h

theorem keepLettersAndSpaces_dropControls (text : List Char) :
    (keepLettersAndSpaces (dropControls text)).map Char.toLower =
      ((keepLettersAndSpaces text).map Char.toLower).filter fun c => c ≠ '\t' ∧ c ≠ '\n' := by
  rw [keepLettersAndSpaces, dropControls, keepLettersAndSpaces, List.filter_map,
    List.filter_filter, List.filter_filter]
  congr 1
  refine List.filter_congr fun c _ => ?_
  cases hletter : isLetterOrSpace c with
  | false => simp
  | true => rw [not_isControl_eq hletter, Bool.true_and, Bool.and_true, Function.comp_apply]

theorem dropControls_of_holds {text : List Char}
    (h : ∀ c ∈ text, lowercaseLetters.holds c = true) :
    dropControls text = text.filter fun c => c ≠ '\t' ∧ c ≠ '\n' := by
  refine List.filter_congr fun c hc => ?_
  obtain ⟨hletter, hlower⟩ := isLetterOrSpace_of_holds (h c hc)
  rw [not_isControl_eq hletter, hlower]

-- A text may be cast into the visible characters on its way to the small letters. Only the blanks
-- get lost that are not visible, and the other order of the two casts gives the same.
theorem normalize_comm (text : List Char) :
    lowercaseLetters.normalize (ascii.normalize text) =
        (lowercaseLetters.normalize text).filter (fun c => c ≠ '\t' ∧ c ≠ '\n') ∧
      ascii.normalize (lowercaseLetters.normalize text) =
        lowercaseLetters.normalize (ascii.normalize text) := by
  have hvisible : asciiText (ascii.normalize text) = ascii.normalize text :=
    asciiText_of_holds fun c hc => holds_of_mem_normalize hc
  have hsmall : ∀ c ∈ lowercaseLetters.normalize text, lowercaseLetters.holds c = true :=
    fun c hc => holds_of_mem_normalize hc
  have hfirst : lowercaseLetters.normalize (ascii.normalize text) =
      (lowercaseLetters.normalize text).filter fun c => c ≠ '\t' ∧ c ≠ '\n' := by
    rw [normalize_lowercaseLetters, hvisible, normalize_ascii, keepLettersAndSpaces_dropControls,
      ← normalize_lowercaseLetters]
  refine ⟨hfirst, ?_⟩
  rw [normalize_ascii, asciiText_of_holds hsmall, dropControls_of_holds hsmall, hfirst]

end Agreement

end Acrostic.Charset
