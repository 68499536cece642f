import Acrostic.Proofs.Corpus.Lines
import Acrostic.Unicode.Hangul
import Mathlib.Tactic.SplitIfs

namespace Acrostic.Unicode.Hangul

open Corpus (toNat_ofNat)

theorem isSyllable_iff {c : Char} :
    isSyllable c = true ↔ 0xAC00 ≤ c.toNat ∧ c.toNat < 0xD7A4 := by
  rw [isSyllable, Bool.and_eq_true, decide_eq_true_iff, decide_eq_true_iff]
  rfl

-- The block of the consonants and vowels that syllables are made of
def IsJamo (c : Char) : Prop :=
  0x1100 ≤ c.toNat ∧ c.toNat ≤ 0x11FF

theorem isJamo_ofNat {point : Nat} (hlow : 0x1100 ≤ point) (hhigh : point ≤ 0x11FF) :
    IsJamo (Char.ofNat point) := by
  rw [IsJamo, toNat_ofNat (.inl (by omega))]
  exact ⟨hlow, hhigh⟩

theorem isSyllable_ofNat {point : Nat} (hlow : 0xAC00 ≤ point) (hhigh : point < 0xD7A4) :
    isSyllable (Char.ofNat point) = true := by
  rw [isSyllable_iff, toNat_ofNat (.inl (by omega))]
  exact ⟨hlow, hhigh⟩

theorem isJamo_of_mem_decompose {c jamo : Char} (h : isSyllable c = true)
    (hjamo : jamo ∈ decompose c) : IsJamo jamo := by
  obtain ⟨hlow, hhigh⟩ := isSyllable_iff.mp h
  simp only [decompose] at hjamo
  split_ifs at hjamo
  all_goals
    dsimp only [syllableBase, leadBase, vowelBase, tailBase, vowelCount, tailCount] at hjamo
    simp only [List.mem_cons, List.not_mem_nil, or_false] at hjamo
  · obtain heq | heq := hjamo <;> rw [heq] <;> exact isJamo_ofNat (by omega) (by omega)
  · obtain heq | heq | heq := hjamo <;> rw [heq] <;> exact isJamo_ofNat (by omega) (by omega)

-- Syllables are composed of jamo, or of a syllable and one more.
theorem compose?_eq_some {first second c : Char} (h : compose? first second = some c) :
    isSyllable c = true ∧ (IsJamo first ∨ isSyllable first = true) ∧ IsJamo second := by
  unfold compose? at h
  split_ifs at h with hlead htail
  · simp only [Bool.and_eq_true, decide_eq_true_iff] at hlead
    dsimp only [leadBase, leadCount, vowelBase, vowelCount] at hlead
    obtain rfl := Option.some.inj h
    refine ⟨isSyllable_ofNat ?_ ?_, .inl ⟨by omega, by omega⟩, ⟨by omega, by omega⟩⟩
    all_goals
      dsimp only [syllableBase, leadBase, vowelBase, vowelCount, tailCount]
      omega
  · simp only [Bool.and_eq_true, decide_eq_true_iff, beq_iff_eq] at htail
    dsimp only [syllableBase, tailBase, tailCount] at htail
    obtain ⟨hlow, hhigh⟩ := isSyllable_iff.mp htail.1.1.1
    obtain rfl := Option.some.inj h
    refine ⟨isSyllable_ofNat ?_ ?_, .inr htail.1.1.1, ⟨by omega, by omega⟩⟩
    all_goals
      dsimp only [tailBase]
      omega

end Acrostic.Unicode.Hangul
