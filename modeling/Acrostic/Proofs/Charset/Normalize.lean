import Acrostic.Proofs.Charset.AsciiPart

namespace Acrostic.Charset

open Unicode

section Ascii

theorem isAscii_of_isLetterOrSpace {c : Char} (h : isLetterOrSpace c = true) :
    isAscii c = true := by
  simp only [isLetterOrSpace, Bool.or_eq_true, beq_iff_eq] at h
  obtain ((halpha | rfl) | rfl) | rfl := h
  · exact decide_eq_true (toNat_lt_of_isAlpha halpha)
  · rfl
  · rfl
  · rfl

-- Letters and spaces are among the ASCII characters that are kept.
theorem keepLettersAndSpaces_keepAscii (text : List Char) :
    keepLettersAndSpaces (keepAscii text) = keepLettersAndSpaces text := by
  rw [keepLettersAndSpaces, keepAscii, List.filter_filter, keepLettersAndSpaces]
  congr 1
  funext c
  cases h : isLetterOrSpace c with
  | false => rfl
  | true => exact isAscii_of_isLetterOrSpace h

end Ascii

-- What of a text can be written in ASCII. Each alphabet keeps a part of it.
def asciiText (text : List Char) : List Char :=
  keepAscii (decompose (spellOut text))

theorem normalize_ascii (text : List Char) :
    ascii.normalize text = dropControls (asciiText text) :=
  rfl

theorem normalize_lowercaseLetters (text : List Char) :
    lowercaseLetters.normalize text =
      (keepLettersAndSpaces (asciiText text)).map Char.toLower := by
  have hkept : ∀ c ∈ keepLettersAndSpaces (asciiText text), c.toNat < 0x80 := fun c hc =>
    of_decide_eq_true (isAscii_of_isLetterOrSpace (List.mem_filter.mp hc).2)
  rw [← lowercase_ascii hkept, asciiText, keepLettersAndSpaces_keepAscii]
  rfl

-- The ASCII characters that a character gives, in whatever text it stands
def asciiOf (c : Char) : List Char :=
  ((spelling? c).getD [c]).flatMap fun d => (compatibilityChar d).flatMap asciiPart

theorem asciiText_eq_flatMap (text : List Char) : asciiText text = text.flatMap asciiOf := by
  rw [asciiText, keepAscii_decompose, spellOut, List.flatMap_assoc]
  rfl

-- The characters that a character becomes in an alphabet
def castChar : Charset → Char → List Char
  | ascii, c => dropControls (asciiOf c)
  | lowercaseLetters, c => (keepLettersAndSpaces (asciiOf c)).map Char.toLower

-- A text is cast character by character.
theorem normalize_eq_flatMap (charset : Charset) (text : List Char) :
    charset.normalize text = text.flatMap charset.castChar := by
  cases charset with
  | ascii =>
    rw [normalize_ascii, asciiText_eq_flatMap, dropControls, List.filter_flatMap]
    rfl
  | lowercaseLetters =>
    rw [normalize_lowercaseLetters, asciiText_eq_flatMap, keepLettersAndSpaces,
      List.filter_flatMap, List.map_flatMap]
    rfl

-- Neither composition nor the ordering of marks reaches from one part of a text into the other.
theorem normalize_append (charset : Charset) (first second : List Char) :
    charset.normalize (first ++ second) = charset.normalize first ++ charset.normalize second ∧
      charset.normalize first = first.flatMap fun c => charset.normalize [c] := by
  simp only [normalize_eq_flatMap, List.flatMap_append, List.flatMap_singleton, and_self]

section Alphabet

-- The characters of an alphabet
def holds : Charset → Char → Bool
  | ascii, c => 0x20 ≤ c.toNat && c.toNat ≤ 0x7E
  | lowercaseLetters, c => c.isLower || c == ' ' || c == '\t' || c == '\n'

theorem isAscii_of_mem_asciiOf {c d : Char} (h : d ∈ asciiOf c) : isAscii d = true := by
  obtain ⟨spelled, -, hspelled⟩ := List.mem_flatMap.mp h
  obtain ⟨part, -, hpart⟩ := List.mem_flatMap.mp hspelled
  exact (List.mem_filter.mp hpart).2

theorem holds_toLower {c : Char} (h : isLetterOrSpace c = true) :
    lowercaseLetters.holds c.toLower = true := by
  have hascii : c.toNat < 0x80 := of_decide_eq_true (isAscii_of_isLetterOrSpace h)
  exact forall_ascii
    (P := fun c => isLetterOrSpace c = true → lowercaseLetters.holds c.toLower = true)
    (by decide) hascii h

theorem holds_of_mem_castChar {charset : Charset} {c d : Char} (h : d ∈ charset.castChar c) :
    charset.holds d = true := by
  cases charset with
  | ascii =>
    obtain ⟨hmem, hcontrol⟩ := List.mem_filter.mp h
    have hascii : d.toNat < 0x80 := of_decide_eq_true (isAscii_of_mem_asciiOf hmem)
    simp only [isControl, Bool.not_eq_true', Bool.or_eq_false_iff, decide_eq_false_iff_not,
      beq_eq_false_iff_ne] at hcontrol
    simp only [holds, Bool.and_eq_true, decide_eq_true_eq]
    omega
  | lowercaseLetters =>
    obtain ⟨letter, hletter, rfl⟩ := List.mem_map.mp h
    exact holds_toLower (List.mem_filter.mp hletter).2

theorem holds_of_mem_normalize {charset : Charset} {text : List Char} {c : Char}
    (h : c ∈ charset.normalize text) : charset.holds c = true := by
  rw [normalize_eq_flatMap] at h
  obtain ⟨d, -, hd⟩ := List.mem_flatMap.mp h
  exact holds_of_mem_castChar hd

theorem toNat_lt_of_holds {charset : Charset} {c : Char} (h : charset.holds c = true) :
    c.toNat < 0x80 := by
  cases charset with
  | ascii =>
    simp only [holds, Bool.and_eq_true, decide_eq_true_eq] at h
    omega
  | lowercaseLetters =>
    simp only [holds, Bool.or_eq_true, beq_iff_eq] at h
    obtain ((hlower | rfl) | rfl) | rfl := h
    · exact toNat_lt_of_isLower hlower
    · decide
    · decide
    · decide

-- No alphabet has the carriage return.
theorem ne_return_of_holds {charset : Charset} {c : Char} (h : charset.holds c = true) :
    c ≠ '\r' := by
  rintro rfl
  revert h
  cases charset <;> decide

end Alphabet

end Acrostic.Charset
