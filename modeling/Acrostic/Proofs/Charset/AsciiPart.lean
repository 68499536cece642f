import Acrostic.Charset
import Acrostic.Proofs.Unicode.Ascii
import Acrostic.Proofs.Unicode.Hangul
import Acrostic.Proofs.Unicode.Normal

namespace Acrostic.Charset

open Unicode

-- The ASCII characters that a character comes apart into
def asciiPart (c : Char) : List Char :=
  (canonicalChar c).filter isAscii

section Tables

-- No code point of the run comes apart into ASCII characters.
def IsForeign (first last : Nat) : Prop :=
  ∀ point ∈ List.range' first (last + 1 - first), asciiPart (Char.ofNat point) = []

instance (first last : Nat) : Decidable (IsForeign first last) :=
  inferInstanceAs (Decidable (∀ point ∈ List.range' first (last + 1 - first), _))

-- A composite comes apart into what the two characters of its key come apart into.
def IsFaithful (span : Span Nat) : Prop :=
  asciiPart (Char.ofNat span.value) =
    asciiPart (Char.ofNat (span.first / 0x110000)) ++
      asciiPart (Char.ofNat (span.first % 0x110000))

instance (span : Span Nat) : Decidable (IsFaithful span) :=
  inferInstanceAs (Decidable (_ = _))

-- Every row of the tables is looked at. The three parts share the tables, which are read once.
theorem tables_agree :
    (∀ span ∈ valueSpans combiningRows, IsForeign span.first span.last) ∧
      IsForeign 0x1100 0x11FF ∧
      ∀ span ∈ compositesOf (compositeRows.flatMap (fields 20)), IsFaithful span := by
  decide +kernel

end Tables

section AsciiPart

variable {first second c : Char}

theorem IsForeign.asciiPart_eq_nil {low high : Nat} (h : IsForeign low high)
    (hlow : low ≤ c.toNat) (hhigh : c.toNat ≤ high) : asciiPart c = [] := by
  have hmem : c.toNat ∈ List.range' low (high + 1 - low) := by
    rw [List.mem_range'_1]
    omega
  have hpoint := h _ hmem
  rwa [Char.ofNat_toNat] at hpoint

theorem asciiPart_of_mark (h : combiningClass c ≠ 0) : asciiPart c = [] := by
  unfold combiningClass at h
  split_ifs at h
  · exact absurd rfl h
  · split at h
    · next span hfind =>
      have hrow : (SpanTree.ofList (valueSpans combiningRows)).find? c.toNat = some span := hfind
      obtain ⟨hmem, hlow, hhigh⟩ := SpanTree.mem_of_find?_ofList hrow
      exact (tables_agree.1 span hmem).asciiPart_eq_nil hlow hhigh
    · exact absurd rfl h

theorem asciiPart_of_isJamo (h : Hangul.IsJamo c) : asciiPart c = [] :=
  tables_agree.2.1.asciiPart_eq_nil h.1 h.2

theorem asciiPart_of_isSyllable (h : Hangul.isSyllable c = true) : asciiPart c = [] := by
  have hlow := (Hangul.isSyllable_iff.mp h).1
  have hlarge : ¬ c.toNat < 0x80 := by omega
  rw [asciiPart, canonicalChar, if_neg hlarge, if_pos h, List.filter_eq_nil_iff]
  intro jamo hjamo
  have hfirst := (Hangul.isJamo_of_mem_decompose h hjamo).1
  simp only [isAscii, decide_eq_true_eq]
  omega

theorem asciiPart_of_compose?_hangul (h : Hangul.compose? first second = some c) :
    asciiPart c = [] ∧ asciiPart first = [] ∧ asciiPart second = [] := by
  obtain ⟨hc, hfirst, hsecond⟩ := Hangul.compose?_eq_some h
  refine ⟨asciiPart_of_isSyllable hc, ?_, asciiPart_of_isJamo hsecond⟩
  cases hfirst with
  | inl hjamo => exact asciiPart_of_isJamo hjamo
  | inr hsyllable => exact asciiPart_of_isSyllable hsyllable

-- The span of a composite is its key alone.
theorem last_eq_first_of_mem_compositesOf {points : List Nat} {span : Span Nat}
    (h : span ∈ compositesOf points) : span.last = span.first := by
  fun_induction compositesOf points with
  | case1 first second composite rest ih =>
    cases List.mem_cons.mp h with
    | inl heq => rw [heq]
    | inr hmem => exact ih hmem
  | case2 => simp at h

theorem asciiPart_of_compose? (h : compose? first second = some c) :
    asciiPart c = asciiPart first ++ asciiPart second := by
  unfold compose? at h
  split at h
  · next hhangul =>
    obtain rfl := Option.some.inj h
    obtain ⟨hc, hfirst, hsecond⟩ := asciiPart_of_compose?_hangul hhangul
    rw [hc, hfirst, hsecond]
    rfl
  · obtain ⟨span, hfind, rfl⟩ := Option.map_eq_some_iff.mp h
    have hrow : (SpanTree.ofList (compositesOf (compositeRows.flatMap (fields 20)))).find?
        (pairKey first.toNat second.toNat) = some span := hfind
    obtain ⟨hmem, hlow, hhigh⟩ := SpanTree.mem_of_find?_ofList hrow
    rw [last_eq_first_of_mem_compositesOf hmem] at hhigh
    have hkey : span.first = first.toNat * 0x110000 + second.toNat :=
      Nat.le_antisymm hlow hhigh
    have hvalid : second.toNat.isValidChar := second.valid
    have hsmall : second.toNat < 0x110000 := by
      unfold Nat.isValidChar at hvalid
      omega
    have hdiv : span.first / 0x110000 = first.toNat := by omega
    have hmod : span.first % 0x110000 = second.toNat := by omega
    have hfaithful := tables_agree.2.2 span hmem
    rwa [IsFaithful, hdiv, hmod, Char.ofNat_toNat, Char.ofNat_toNat] at hfaithful

theorem seesThrough_asciiPart : SeesThrough asciiPart where
  mark _ := asciiPart_of_mark
  composite _ _ _ := asciiPart_of_compose?

end AsciiPart

section Decompose

theorem keepAscii_decomposeCanonical (text : List Char) :
    keepAscii (decomposeCanonical text) = text.flatMap asciiPart := by
  have hkeep (text : List Char) : keepAscii text = text.flatMap fun c => [c].filter isAscii := by
    rw [keepAscii, ← List.filter_flatMap, List.flatMap_singleton']
  have hmark (c : Char) (h : combiningClass c ≠ 0) : [c].filter isAscii = [] := by
    rw [List.filter_eq_nil_iff]
    rintro d hd hascii
    rw [List.mem_singleton.mp hd] at hascii
    exact h (combiningClass_ascii (of_decide_eq_true hascii))
  rw [decomposeCanonical, hkeep, flatMap_canonicalOrder hmark, ← hkeep, keepAscii,
    List.filter_flatMap]
  rfl

-- Which ASCII characters come out of a text is decided character by character, although
-- composition and ordering look at neighbours.
theorem keepAscii_decompose (text : List Char) :
    keepAscii (decompose text) =
      text.flatMap fun c => (compatibilityChar c).flatMap asciiPart := by
  rw [decompose, keepAscii_decomposeCanonical, composeCompatibility,
    flatMap_compose seesThrough_asciiPart, decomposeCompatibility,
    flatMap_canonicalOrder seesThrough_asciiPart.mark, List.flatMap_assoc]

end Decompose

end Acrostic.Charset
