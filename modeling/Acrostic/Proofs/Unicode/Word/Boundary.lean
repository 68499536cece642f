import Acrostic.Proofs.Unicode.Ascii
import Acrostic.Unicode.Word.Boundary
import Mathlib.Tactic.SplitIfs
import Mathlib.Tactic.Tauto

namespace Acrostic.Unicode

namespace WordBreak

-- Whether a class takes part in words, as a piece of them or between two pieces
def isInner (kind : WordBreak) : Bool :=
  kind.isLetter || kind.joinsLetters || kind.joinsDigits || kind == doubleQuote ||
    kind == numeric || kind == katakana || kind == extendNumLet

theorem eq_false_of_isInner {kind : WordBreak} (h : kind.isInner = false) :
    kind.isLetter = false ∧ kind.joinsLetters = false ∧ kind.joinsDigits = false ∧
      (kind == hebrewLetter) = false ∧ (kind == singleQuote) = false ∧
      (kind == doubleQuote) = false ∧ (kind == numeric) = false ∧ (kind == katakana) = false ∧
      (kind == extendNumLet) = false := by
  simp only [isInner, isLetter, joinsLetters, joinsDigits, Bool.or_eq_false_iff] at h ⊢
  tauto

end WordBreak

section ContinuesWord

variable {near kind : WordBreak}

theorem continuesWord_of_kind (h : kind.isInner = false) (far near next : Option WordBreak) :
    continuesWord far near kind next = false := by
  cases near with
  | none => rfl
  | some near => simp [continuesWord, WordBreak.eq_false_of_isInner h]

theorem continuesWord_of_near (h : near.isInner = false) (far : Option WordBreak)
    (kind : WordBreak) (next : Option WordBreak) :
    continuesWord far (some near) kind next = false := by
  simp [continuesWord, WordBreak.eq_false_of_isInner h]

-- What takes no part in words may as well be missing, ahead or behind.
theorem continuesWord_of_next (h : kind.isInner = false) (far near : Option WordBreak)
    (middle : WordBreak) :
    continuesWord far near middle (some kind) = continuesWord far near middle none := by
  cases near with
  | none => rfl
  | some near => simp [continuesWord, WordBreak.eq_false_of_isInner h]

theorem continuesWord_of_far (h : kind.isInner = false) (near : Option WordBreak)
    (middle : WordBreak) (next : Option WordBreak) :
    continuesWord (some kind) near middle next = continuesWord none near middle next := by
  cases near with
  | none => rfl
  | some near => simp [continuesWord, WordBreak.eq_false_of_isInner h]

end ContinuesWord

-- The characters that part the words of a text in an alphabet
def IsBlank (c : Char) : Prop :=
  c = ' ' ∨ c = '\t' ∨ c = '\n'

instance (c : Char) : Decidable (IsBlank c) :=
  inferInstanceAs (Decidable (c = ' ' ∨ c = '\t' ∨ c = '\n'))

section Blank

variable {blank : Char}

theorem isInner_blank (h : IsBlank blank) : (WordBreak.ofChar blank).isInner = false := by
  obtain rfl | rfl | rfl := h <;> rfl

theorem isTransparent_blank (h : IsBlank blank) :
    (WordBreak.ofChar blank).isTransparent = false := by
  obtain rfl | rfl | rfl := h <;> rfl

-- What the rules look ahead for is not found behind a blank.
theorem nextSignificant_append_blank (h : IsBlank blank) (text more : List Char) :
    nextSignificant (text ++ blank :: more) =
      some ((nextSignificant text).getD (WordBreak.ofChar blank)) := by
  induction text with
  | nil => simp [nextSignificant, isTransparent_blank h]
  | cons c text ih =>
    unfold nextSignificant at ih ⊢
    cases hc : (WordBreak.ofChar c).isTransparent with
    | false => simp [hc]
    | true => simpa [hc] using ih

-- Where the words in front of a blank end does not depend on what follows it.
theorem isBoundary_append_blank (h : IsBlank blank) (before : Preceding) (c : Char)
    (text more : List Char) :
    isBoundary before c (text ++ blank :: more) = isBoundary before c text := by
  simp only [isBoundary, nextSignificant_append_blank h]
  cases nextSignificant text with
  | none => simp only [Option.getD_none, continuesWord_of_next (isInner_blank h)]
  | some kind => rfl

-- A boundary stands in front of a blank, unless this is a space behind another one or ends a line
-- together with a carriage return.
theorem isBoundary_blank (h : IsBlank blank) {before : Preceding} (hreturn : before.last ≠ .cr)
    (rest : List Char) :
    isBoundary before blank rest = true ∨ before.last = .wSegSpace ∧ blank = ' ' := by
  simp only [isBoundary]
  split_ifs with hline hend hpictographic hspaces htransparent hregional
  · simp [hreturn] at hline
  · exact .inl rfl
  · have hplain : isPictographic blank = false := by
      obtain rfl | rfl | rfl := h <;> decide +kernel
    simp [hplain] at hpictographic
  · simp only [Bool.and_eq_true, beq_iff_eq] at hspaces
    obtain rfl | rfl | rfl := h
    · exact .inr ⟨hspaces.1, rfl⟩
    · exact absurd hspaces.2 (by decide)
    · exact absurd hspaces.2 (by decide)
  · rw [isTransparent_blank h] at htransparent
    contradiction
  · have hother : WordBreak.ofChar blank ≠ .regionalIndicator := by
      obtain rfl | rfl | rfl := h <;> decide
    simp [hother] at hregional
  · left
    rw [continuesWord_of_kind (isInner_blank h)]
    rfl

end Blank

section Preceding

-- The rules cannot tell the two apart.
structure Preceding.Agrees (before other : Preceding) : Prop where
  last : before.last = other.last
  near : before.near = other.near
  far : before.far.filter WordBreak.isInner = other.far.filter WordBreak.isInner
  unpaired : before.unpaired = other.unpaired

variable {before other : Preceding} {kind : WordBreak}

theorem continuesWord_filter_far (far near : Option WordBreak) (middle : WordBreak)
    (next : Option WordBreak) :
    continuesWord (far.filter WordBreak.isInner) near middle next =
      continuesWord far near middle next := by
  cases far with
  | none => rfl
  | some kind =>
    cases hkind : kind.isInner with
    | false => simp only [Option.filter, hkind, continuesWord_of_far hkind, Bool.false_eq_true, if_false]
    | true => simp only [Option.filter, hkind, if_true]

theorem Preceding.Agrees.isBoundary_eq (h : before.Agrees other) (c : Char) (rest : List Char) :
    isBoundary before c rest = isBoundary other c rest := by
  simp only [isBoundary]
  rw [h.last, h.near, h.unpaired, ← continuesWord_filter_far before.far, h.far,
    continuesWord_filter_far]

theorem Preceding.Agrees.push (h : before.Agrees other) (kind : WordBreak) :
    (before.push kind).Agrees (other.push kind) := by
  unfold Preceding.push
  split_ifs
  · exact ⟨rfl, h.near, h.far, h.unpaired⟩
  · exact ⟨rfl, rfl, rfl, rfl⟩
  · exact ⟨rfl, rfl, congrArg (·.filter WordBreak.isInner) h.near, by rw [h.unpaired]⟩

theorem last_push (before : Preceding) (kind : WordBreak) : (before.push kind).last = kind := by
  unfold Preceding.push
  split_ifs <;> rfl

-- A blank ends the text in front.
structure Preceding.EndsInBlank (before : Preceding) : Prop where
  last : before.last = .wSegSpace ∨ before.last = .other ∨ before.last = .lf
  near : ∀ near, before.near = some near → near.isInner = false ∧ near ≠ .regionalIndicator
  unpaired : before.unpaired = false

theorem endsInBlank_push {blank : Char} (h : IsBlank blank) (before : Preceding) :
    (before.push (WordBreak.ofChar blank)).EndsInBlank := by
  obtain rfl | rfl | rfl := h
  · exact ⟨.inl rfl, fun _ hnear => Option.some.inj hnear ▸ ⟨rfl, by decide⟩, rfl⟩
  · exact ⟨.inr (.inl rfl), fun _ hnear => Option.some.inj hnear ▸ ⟨rfl, by decide⟩, rfl⟩
  · exact ⟨.inr (.inr rfl), nofun, rfl⟩

theorem endsInBlank_first {blank : Char} (h : IsBlank blank) :
    (Preceding.first (WordBreak.ofChar blank)).EndsInBlank := by
  obtain rfl | rfl | rfl := h
  · exact ⟨.inl rfl, fun _ hnear => Option.some.inj hnear ▸ ⟨rfl, by decide⟩, rfl⟩
  · exact ⟨.inr (.inl rfl), fun _ hnear => Option.some.inj hnear ▸ ⟨rfl, by decide⟩, rfl⟩
  · exact ⟨.inr (.inr rfl), nofun, rfl⟩

-- Behind a blank the text begins anew, unless one space follows another.
theorem Preceding.EndsInBlank.isBoundary_eq (h : before.EndsInBlank) {c : Char}
    (hc : (WordBreak.ofChar c).isTransparent = false) (rest : List Char) :
    isBoundary before c rest =
      !(before.last == .wSegSpace && WordBreak.ofChar c == .wSegSpace) := by
  have hword : continuesWord before.far before.near (WordBreak.ofChar c)
      (nextSignificant rest) = false := by
    cases hnear : before.near with
    | none => rfl
    | some near => exact continuesWord_of_near (h.near near hnear).1 _ _ _
  have hregional : (before.near == some .regionalIndicator) = false := by
    rw [beq_eq_false_iff_ne]
    exact fun hnear => (h.near _ hnear).2 rfl
  simp only [isBoundary, hword, hregional, hc]
  obtain hlast | hlast | hlast := h.last
  · cases hspace : WordBreak.ofChar c == .wSegSpace with
    | false => simp [hlast]
    | true => simp [hlast, beq_iff_eq.mp hspace, WordBreak.isLineEnd]
  · simp [hlast]
  · simp [hlast, WordBreak.isLineEnd]

theorem Preceding.EndsInBlank.agrees (h : before.EndsInBlank)
    (hkind : kind.isTransparent = false) : (before.push kind).Agrees (Preceding.first kind) := by
  unfold Preceding.push Preceding.first
  rw [hkind, h.unpaired]
  cases hend : kind.isLineEnd with
  | true =>
    have hregional : kind ≠ .regionalIndicator := by
      rintro rfl
      exact absurd hend (by decide)
    exact ⟨rfl, rfl, rfl, (beq_eq_false_iff_ne.mpr hregional).symm⟩
  | false =>
    have hnear : before.near.filter WordBreak.isInner = none := by
      rw [Option.filter_eq_none_iff]
      exact fun near hmem => by simp [(h.near near hmem).1]
    exact ⟨rfl, rfl, hnear, by simp⟩

end Preceding

end Acrostic.Unicode
