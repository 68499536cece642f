import Acrostic.Proofs.Unicode.Alphabetic
import Mathlib.Data.List.Basic

namespace Acrostic.Unicode

-- The ASCII letters that other characters have in their uppercase forms
def composedCapitals : List Char := "AFHIJLNSTWY".toList

-- A character that no character but itself and, if it is a letter, its small form has in uppercase
def isDistinct (c : Char) : Bool :=
  isWhiteSpace c || c.toNat < 0x80 && !composedCapitals.contains c

section Upper

variable {c : Char}

theorem upperRows_distinct : ∀ span ∈ mappingSpans upperRows, span.value ≠ [] ∧
    ∀ offset < span.last - span.first + 1, ∀ target ∈ span.value,
      isDistinct (Char.ofNat (target + offset)) = false := by
  decide +kernel

theorem toUpper_of_not_ascii (hc : ¬ c.toNat < 0x80) : c.toUpper = c := by
  unfold Char.toUpper
  split
  · next hlower =>
    have hlast : c.val ≤ 'z'.val := hlower.2
    exact absurd (Nat.lt_of_le_of_lt hlast (by decide)) hc
  · rfl

-- Beyond ASCII a character stays what it is or becomes characters that are not distinct.
theorem upperChar_cases (c : Char) :
    upperChar c = [c.toUpper] ∨
      upperChar c ≠ [] ∧ ∀ d ∈ upperChar c, isDistinct d = false := by
  unfold upperChar
  split
  · exact .inl rfl
  · next hc =>
    rw [toUpper_of_not_ascii hc]
    cases himage : upperMap.image? c with
    | none => exact .inl rfl
    | some image =>
      obtain ⟨span, hfind, rfl⟩ := Option.map_eq_some_iff.mp himage
      have hrow : (SpanTree.ofList (mappingSpans upperRows)).find? c.toNat = some span := hfind
      obtain ⟨hmem, hfirst, hlast⟩ := SpanTree.mem_of_find?_ofList hrow
      obtain ⟨hsome, hdistinct⟩ := upperRows_distinct span hmem
      refine .inr ⟨by simpa [Span.image] using hsome, fun d hd => ?_⟩
      obtain ⟨target, htarget, rfl⟩ := List.mem_map.mp hd
      exact hdistinct (c.toNat - span.first) (by omega) target htarget

theorem upperRows_wideBlanks : ∀ point ∈ wideBlanks, (upperMap.find? point).isNone := by
  decide +kernel

-- Only small letters change in uppercase.
theorem eq_of_isUpper_toUpper (h : c.toUpper.isUpper = false) : c.toUpper = c := by
  by_cases hc : c.toNat < 0x80
  · exact forall_ascii (P := fun c => c.toUpper.isUpper = false → c.toUpper = c)
      (by decide) hc h
  · exact toUpper_of_not_ascii hc

-- A character that is its own uppercase form and no other's
structure IsCaseless (c : Char) : Prop where
  upperChar_eq : upperChar c = [c]
  isUpper_eq_false : c.isUpper = false
  isDistinct_eq_true : isDistinct c = true

instance : DecidablePred IsCaseless := fun c =>
  decidable_of_iff (upperChar c = [c] ∧ c.isUpper = false ∧ isDistinct c = true)
    ⟨fun h => ⟨h.1, h.2.1, h.2.2⟩, fun h => ⟨h.1, h.2, h.3⟩⟩

theorem isCaseless_of_isWhiteSpace (h : isWhiteSpace c = true) : IsCaseless c := by
  by_cases hc : c.toNat < 0x80
  · exact forall_ascii (P := fun c => isWhiteSpace c = true → IsCaseless c) (by decide) hc h
  · have hnone := upperRows_wideBlanks c.toNat (mem_wideBlanks (by omega) h)
    refine ⟨?_, ?_, by simp [isDistinct, h]⟩
    · rw [upperChar, if_neg hc, CharMap.image?, Option.isNone_iff_eq_none.mp hnone]
      rfl
    · rw [Bool.eq_false_iff]
      exact fun hupper => hc (toNat_lt_of_isUpper hupper)

theorem isCaseless_of_isDigit (h : c.isDigit = true) : IsCaseless c :=
  forall_ascii (P := fun c => c.isDigit = true → IsCaseless c) (by decide) (toNat_lt_of_isDigit h) h

end Upper

section Text

variable {text front : List Char}

theorem uppercase_append (text more : List Char) :
    uppercase (text ++ more) = uppercase text ++ uppercase more :=
  List.flatMap_append

theorem uppercase_of_isCaseless (h : ∀ c ∈ text, IsCaseless c) : uppercase text = text := by
  rw [uppercase, List.flatMap_congr fun c hc => (h c hc).upperChar_eq, List.flatMap_singleton']

theorem uppercase_of_ascii (h : ∀ c ∈ text, c.toUpper.toNat < 0x80) :
    uppercase text = text.map Char.toUpper := by
  rw [List.map_eq_flatMap]
  refine List.flatMap_congr fun c hc => if_pos ?_
  by_contra hbeyond
  have hascii := h c hc
  rw [toUpper_of_not_ascii hbeyond] at hascii
  exact hbeyond hascii

-- A text that is distinct in uppercase comes from its letters in whatever case and from nothing else.
theorem uppercase_of_isDistinct (h : ∀ d ∈ uppercase text, isDistinct d = true) :
    uppercase text = text.map Char.toUpper := by
  rw [List.map_eq_flatMap]
  refine List.flatMap_congr fun c hc => ?_
  cases upperChar_cases c with
  | inl hsame => exact hsame
  | inr hother =>
    obtain ⟨hsome, hforeign⟩ := hother
    obtain ⟨d, hd⟩ := List.exists_mem_of_ne_nil _ hsome
    have hdistinct := h d (List.mem_flatMap.mpr ⟨c, hc, hd⟩)
    rw [hforeign d hd] at hdistinct
    contradiction

theorem eq_of_map_toUpper_eq (hfront : ∀ c ∈ front, c.isUpper = false)
    (h : text.map Char.toUpper = front) : text = front := by
  subst h
  calc text = text.map id := (List.map_id text).symm
    _ = text.map Char.toUpper := List.map_congr_left fun c hc =>
      (eq_of_isUpper_toUpper (hfront _ (List.mem_map_of_mem hc))).symm

end Text

end Acrostic.Unicode
