import Acrostic.Proofs.Unicode.Ascii
import Mathlib.Data.List.TakeWhile
import Mathlib.Tactic.Tauto

namespace Acrostic.Unicode

section Context

-- The lowercase form of a character between the text in front of it, backwards, and the text
-- behind it
def lowerAt (before : List Char) (c : Char) (after : List Char) : List Char :=
  if c = capitalSigma then [lowerSigma before after] else lowerChar c

-- The lowercase form of a text that stands between two others, the first of which is backwards
def lowerBetween (before : List Char) : List Char → List Char → List Char
  | [], _ => []
  | c :: text, after => lowerAt before c (text ++ after) ++ lowerBetween (c :: before) text after

theorem lowerFrom_eq (before done text : List Char) :
    lowerFrom before done text = done.reverse ++ lowerBetween before text [] := by
  induction text generalizing before done with
  | nil => simp [lowerFrom, lowerBetween]
  | cons c text ih =>
    rw [lowerFrom, lowerBetween, lowerAt, List.append_nil]
    split
    · rw [ih, List.reverse_cons, List.append_assoc]
    · rw [ih, List.reverse_append, List.reverse_reverse, List.append_assoc]

theorem lowercase_eq (text : List Char) : lowercase text = lowerBetween [] text [] :=
  lowerFrom_eq [] [] text

theorem lowerBetween_append (before text more after : List Char) :
    lowerBetween before (text ++ more) after =
      lowerBetween before text (more ++ after) ++ lowerBetween (text.reverse ++ before) more after := by
  induction text generalizing before with
  | nil => rfl
  | cons c text ih => simp [lowerBetween, ih]

theorem lowercase_append (text more : List Char) :
    lowercase (text ++ more) = lowerBetween [] text more ++ lowerBetween text.reverse more [] := by
  rw [lowercase_eq, lowerBetween_append, List.append_nil, List.append_nil]

end Context

section Length

-- The only character that is longer in lowercase
def dottedCapitalI : Char := 'İ'

theorem lowerRows_single : ∀ span ∈ mappingSpans lowerRows,
    span.value.length = 1 ∨ span.first = dottedCapitalI.toNat ∧ span.last = dottedCapitalI.toNat := by
  decide +kernel

theorem length_lowerChar_dottedCapitalI : (lowerChar dottedCapitalI).length = 2 := by
  decide +kernel

theorem length_lowerChar {c : Char} (h : c ≠ dottedCapitalI) : (lowerChar c).length = 1 := by
  unfold lowerChar
  split
  · rfl
  · cases himage : lowerMap.image? c with
    | none => rfl
    | some image =>
      obtain ⟨span, hfind, rfl⟩ := Option.map_eq_some_iff.mp himage
      have hrow : (SpanTree.ofList (mappingSpans lowerRows)).find? c.toNat = some span := hfind
      obtain ⟨hmem, hfirst, hlast⟩ := SpanTree.mem_of_find?_ofList hrow
      cases lowerRows_single span hmem with
      | inl hsingle => simpa [Span.image] using hsingle
      | inr hdotted =>
        have hpoint : c.toNat = dottedCapitalI.toNat := by omega
        exact absurd (Char.toNat_inj.mp hpoint) h

theorem length_lowerAt (before : List Char) (c : Char) (after : List Char) :
    (lowerAt before c after).length = 1 + [c].count dottedCapitalI := by
  unfold lowerAt
  split
  · next hsigma =>
    subst hsigma
    rfl
  · by_cases hdotted : c = dottedCapitalI
    · subst hdotted
      rw [length_lowerChar_dottedCapitalI, List.count_singleton_self]
    · rw [length_lowerChar hdotted, List.count_singleton, if_neg (by simpa using hdotted)]

-- What stands beside a text does not change how long it is in lowercase.
theorem length_lowerBetween (before text after : List Char) :
    (lowerBetween before text after).length = text.length + text.count dottedCapitalI := by
  induction text generalizing before with
  | nil => rfl
  | cons c text ih =>
    have hcount : ([c] ++ text).count dottedCapitalI =
        [c].count dottedCapitalI + text.count dottedCapitalI := List.count_append
    rw [List.singleton_append] at hcount
    rw [lowerBetween, List.length_append, length_lowerAt, ih, List.length_cons, hcount]
    omega

theorem length_lowercase (text : List Char) :
    (lowercase text).length = text.length + text.count dottedCapitalI := by
  rw [lowercase_eq, length_lowerBetween]

end Length

section Sigma

variable {text more : List Char}

theorem meetsCased_append (h : ∀ c ∈ text, isCaseIgnorable c = true) (more : List Char) :
    meetsCased (text ++ more) = meetsCased more := by
  rw [meetsCased, List.dropWhile_append_of_pos h, meetsCased]

theorem meetsCased_append_of_not (h : ¬ ∀ c ∈ text, isCaseIgnorable c = true) (more : List Char) :
    meetsCased (text ++ more) = meetsCased text := by
  rw [← List.dropWhile_eq_nil_iff] at h
  rw [meetsCased, meetsCased, List.dropWhile_append, if_neg (by simpa using h)]
  cases hrest : text.dropWhile isCaseIgnorable with
  | nil => exact absurd hrest h
  | cons c rest => rfl

-- The last letter of a text is a capital sigma with a letter in front of it, which makes it a
-- final one. What is in front of the text counts, and is given backwards.
def EndsInSigma (before text : List Char) : Prop :=
  ∃ first last, text = first ++ capitalSigma :: last ∧
    meetsCased (first.reverse ++ before) = true ∧ ∀ c ∈ last, isCaseIgnorable c = true

theorem not_endsInSigma_nil (before : List Char) : ¬ EndsInSigma before [] := by
  rintro ⟨first, last, htext, -⟩
  simp at htext

theorem endsInSigma_cons {before : List Char} {c : Char} :
    EndsInSigma before (c :: text) ↔
      (c = capitalSigma ∧ meetsCased before = true ∧ ∀ d ∈ text, isCaseIgnorable d = true) ∨
        EndsInSigma (c :: before) text := by
  constructor
  · rintro ⟨first, last, htext, hbefore, hlast⟩
    cases first with
    | nil =>
      obtain ⟨rfl, rfl⟩ := List.cons.inj htext
      exact .inl ⟨rfl, hbefore, hlast⟩
    | cons d first =>
      obtain ⟨rfl, rfl⟩ := List.cons.inj htext
      exact .inr ⟨first, last, rfl, by simpa using hbefore, hlast⟩
  · rintro (⟨rfl, hbefore, htext⟩ | ⟨first, last, rfl, hbefore, hlast⟩)
    · exact ⟨[], text, rfl, hbefore, htext⟩
    · exact ⟨c :: first, last, rfl, by simpa using hbefore, hlast⟩

theorem lowerSigma_eq_iff {before after other : List Char} :
    lowerSigma before after = lowerSigma before other ↔
      (meetsCased before = true → meetsCased after = meetsCased other) := by
  unfold lowerSigma
  cases meetsCased before <;> cases meetsCased after <;> cases meetsCased other <;> decide

theorem lowerAt_eq_iff {before : List Char} {c : Char} :
    lowerAt before c (text ++ more) = lowerAt before c text ↔
      ¬ ((c = capitalSigma ∧ meetsCased before = true ∧ ∀ d ∈ text, isCaseIgnorable d = true) ∧
        meetsCased more = true) := by
  unfold lowerAt
  split
  · next hsigma =>
    rw [List.cons.injEq, and_iff_left rfl, lowerSigma_eq_iff]
    by_cases htext : ∀ d ∈ text, isCaseIgnorable d = true
    · have hnone : meetsCased text = false := by
        simpa [meetsCased] using meetsCased_append htext []
      rw [meetsCased_append htext, hnone, ← Bool.not_eq_true]
      tauto
    · have hsame := meetsCased_append_of_not htext more
      tauto
  · next hsigma => tauto

-- A text has the lowercase form that it has by itself, unless it ends in a final sigma that is no
-- longer final with what follows.
theorem lowerBetween_eq_iff {before : List Char} :
    lowerBetween before text more = lowerBetween before text [] ↔
      ¬ (EndsInSigma before text ∧ meetsCased more = true) := by
  induction text generalizing before with
  | nil => exact iff_of_true rfl fun h => not_endsInSigma_nil before h.1
  | cons c text ih =>
    have hlength : (lowerAt before c (text ++ more)).length = (lowerAt before c text).length := by
      rw [length_lowerAt, length_lowerAt]
    have hparts : lowerBetween before (c :: text) more = lowerBetween before (c :: text) [] ↔
        lowerAt before c (text ++ more) = lowerAt before c text ∧
          lowerBetween (c :: before) text more = lowerBetween (c :: before) text [] := by
      rw [lowerBetween, lowerBetween, List.append_nil]
      exact ⟨fun heq => List.append_inj heq hlength, fun heq => by rw [heq.1, heq.2]⟩
    rw [hparts, lowerAt_eq_iff, ih, endsInSigma_cons]
    tauto

-- The text ends in a final sigma, which is not final any more when the word goes on behind it.
def LosesFinalSigma (text more : List Char) : Prop :=
  EndsInSigma [] text ∧ meetsCased more = true

-- Lowercasing does not go with taking the front of a text where that cuts a word behind a sigma.
theorem lowercase_isPrefix_append_iff :
    lowercase text <+: lowercase (text ++ more) ↔ ¬ LosesFinalSigma text more := by
  rw [LosesFinalSigma, ← lowerBetween_eq_iff, lowercase_append, lowercase_eq]
  have hlength : (lowerBetween [] text []).length = (lowerBetween [] text more).length := by
    rw [length_lowerBetween, length_lowerBetween]
  constructor
  · intro hprefix
    have hshort := List.prefix_of_prefix_length_le hprefix (List.prefix_append _ _) (Nat.le_of_eq hlength)
    exact (hshort.eq_of_length hlength).symm
  · intro heq
    rw [heq]
    exact List.prefix_append _ _

end Sigma

section Ascii

theorem toNat_lt_of_toLower {c : Char} (h : c.toLower.toNat < 0x80) : c.toNat < 0x80 := by
  unfold Char.toLower at h
  split at h
  · next hupper => exact toNat_lt_of_isUpper (decide_eq_true hupper)
  · exact h

-- Texts that are the same up to the case of their ASCII letters are the same in lowercase.
theorem lowercase_eq_of_map_toLower_eq {text other : List Char} (h : ∀ c ∈ text, c.toNat < 0x80)
    (heq : other.map Char.toLower = text.map Char.toLower) : lowercase other = lowercase text := by
  have hother : ∀ c ∈ other, c.toNat < 0x80 := by
    intro c hc
    have hmem : c.toLower ∈ text.map Char.toLower := heq ▸ List.mem_map_of_mem hc
    obtain ⟨d, hd, hlower⟩ := List.mem_map.mp hmem
    apply toNat_lt_of_toLower
    rw [← hlower]
    exact forall_ascii (P := fun d => d.toLower.toNat < 0x80) (by decide) (h d hd)
  rw [lowercase_ascii hother, lowercase_ascii h, heq]

end Ascii

end Acrostic.Unicode
