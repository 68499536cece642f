import Acrostic.Corpus.Utf8
import Acrostic.Proofs.Corpus.Decoding

namespace Acrostic.Corpus.Utf8

section First

variable {byte : UInt8}

theorem first_ascii (h : byte.toNat < 0x80) :
    first byte = (.ready, [some (Char.ofNat byte.toNat)]) := by
  simp [first, UInt8.lt_iff_toNat_lt, h]

theorem first_two {bits : Nat} (hbyte : byte.toNat = bits + 0xC0) (h : 2 ≤ bits)
    (h' : bits < 0x20) : first byte = (.within bits 1 0x80 0xBF, []) := by
  have h0 : ¬ byte.toNat < 128 := by omega
  have h1 : ¬ byte.toNat < 194 := by omega
  have h2 : byte.toNat < 224 := by omega
  simp [first, UInt8.lt_iff_toNat_lt, h0, h1, h2]
  omega

-- The bytes that start three: the first of them forbids what two would encode, and the one before
-- the last two surrogates.
theorem first_three {bits : Nat} (hbyte : byte.toNat = bits + 0xE0) (h : bits < 0x10) :
    first byte = (.within bits 2 (if bits = 0 then 0xA0 else 0x80)
      (if bits = 0xD then 0x9F else 0xBF), []) := by
  have h0 : ¬ byte.toNat < 128 := by omega
  have h1 : ¬ byte.toNat < 194 := by omega
  have h2 : ¬ byte.toNat < 224 := by omega
  by_cases hlow : bits = 0
  · simp [first, UInt8.lt_iff_toNat_lt, ← UInt8.toNat_inj, hbyte, hlow]
  by_cases hhigh : bits = 0xD
  · simp [first, UInt8.lt_iff_toNat_lt, ← UInt8.toNat_inj, hbyte, hhigh]
  · have h3 : byte.toNat < 240 := by omega
    have h4 : byte.toNat ≠ 224 := by omega
    have h5 : byte.toNat ≠ 237 := by omega
    simp [first, UInt8.lt_iff_toNat_lt, ← UInt8.toNat_inj, hlow, hhigh, h0, h1, h2, h3, h4, h5]
    omega

theorem first_four {bits : Nat} (hbyte : byte.toNat = bits + 0xF0) (h : bits ≤ 4) :
    first byte = (.within bits 3 (if bits = 0 then 0x90 else 0x80)
      (if bits = 4 then 0x8F else 0xBF), []) := by
  have h0 : ¬ byte.toNat < 128 := by omega
  have h1 : ¬ byte.toNat < 194 := by omega
  have h2 : ¬ byte.toNat < 224 := by omega
  have h3 : ¬ byte.toNat < 240 := by omega
  have h4 : byte.toNat ≠ 224 := by omega
  have h5 : byte.toNat ≠ 237 := by omega
  by_cases hlow : bits = 0
  · simp [first, UInt8.lt_iff_toNat_lt, ← UInt8.toNat_inj, hbyte, hlow]
  by_cases hhigh : bits = 4
  · simp [first, UInt8.lt_iff_toNat_lt, ← UInt8.toNat_inj, hbyte, hhigh]
  · have h6 : byte.toNat < 244 := by omega
    have h7 : byte.toNat ≠ 240 := by omega
    simp [first, UInt8.lt_iff_toNat_lt, ← UInt8.toNat_inj, hlow, hhigh, h0, h1, h2, h3, h4, h5,
      h6, h7]
    omega

theorem first_none (h : 0x80 ≤ byte.toNat ∧ byte.toNat < 0xC2 ∨ 0xF4 < byte.toNat) :
    first byte = (.ready, [none]) := by
  have h0 : ¬ byte.toNat < 128 := by omega
  by_cases h1 : byte.toNat < 194
  · simp [first, UInt8.lt_iff_toNat_lt, h0, h1]
  · have h2 : ¬ byte.toNat < 224 := by omega
    have h3 : ¬ byte.toNat < 240 := by omega
    have h4 : byte.toNat ≠ 224 := by omega
    have h5 : byte.toNat ≠ 237 := by omega
    have h6 : byte.toNat ≠ 240 := by omega
    have h7 : ¬ byte.toNat < 244 := by omega
    have h8 : byte.toNat ≠ 244 := by omega
    simp [first, UInt8.lt_iff_toNat_lt, ← UInt8.toNat_inj, h0, h1, h2, h3, h4, h5, h6, h7, h8]

-- A byte that opens a character: the bits it brings, how many bytes it lacks, and the bounds of
-- the next
inductive Opens (byte : UInt8) (bits : Nat) : Nat → UInt8 → UInt8 → Prop
  | two (hbyte : byte.toNat = bits + 0xC0) (h : 2 ≤ bits) (h' : bits < 0x20) :
    Opens byte bits 1 0x80 0xBF
  | three (hbyte : byte.toNat = bits + 0xE0) (h : bits < 0x10) :
    Opens byte bits 2 (if bits = 0 then 0xA0 else 0x80) (if bits = 0xD then 0x9F else 0xBF)
  | four (hbyte : byte.toNat = bits + 0xF0) (h : bits ≤ 4) :
    Opens byte bits 3 (if bits = 0 then 0x90 else 0x80) (if bits = 4 then 0x8F else 0xBF)

theorem Opens.first_eq {bits lacking : Nat} {low high : UInt8}
    (h : Opens byte bits lacking low high) :
    first byte = (.within bits lacking low high, []) := by
  cases h with
  | two hbyte h h' => exact first_two hbyte h h'
  | three hbyte h => exact first_three hbyte h
  | four hbyte h => exact first_four hbyte h

-- A byte is a character, or none, or opens one.
theorem first_cases (byte : UInt8) :
    byte.toNat < 0x80 ∧ first byte = (.ready, [some (Char.ofNat byte.toNat)]) ∨
      first byte = (.ready, [none]) ∨
      ∃ bits lacking low high, Opens byte bits lacking low high := by
  by_cases hascii : byte.toNat < 0x80
  · exact .inl ⟨hascii, first_ascii hascii⟩
  by_cases hnone : byte.toNat < 0xC2 ∨ 0xF4 < byte.toNat
  · have hbounds : 0x80 ≤ byte.toNat ∧ byte.toNat < 0xC2 ∨ 0xF4 < byte.toNat := by omega
    exact .inr (.inl (first_none hbounds))
  right
  right
  by_cases htwo : byte.toNat < 0xE0
  · obtain ⟨bits, hbits⟩ := Nat.exists_eq_add_of_le' (show 0xC0 ≤ byte.toNat by omega)
    exact ⟨bits, _, _, _, .two hbits (by omega) (by omega)⟩
  by_cases hthree : byte.toNat < 0xF0
  · obtain ⟨bits, hbits⟩ := Nat.exists_eq_add_of_le' (show 0xE0 ≤ byte.toNat by omega)
    exact ⟨bits, _, _, _, .three hbits (by omega)⟩
  · obtain ⟨bits, hbits⟩ := Nat.exists_eq_add_of_le' (show 0xF0 ≤ byte.toNat by omega)
    exact ⟨bits, _, _, _, .four hbits (by omega)⟩

end First

section Within

variable {value lacking : Nat} {low high byte : UInt8}

theorem step_of_mem (h : low.toNat ≤ byte.toNat ∧ byte.toNat ≤ high.toNat) :
    step (.within value lacking low high) byte =
      if lacking ≤ 1 then (.ready, [some (Char.ofNat (value * 64 + (byte.toNat - 0x80)))])
      else (.within (value * 64 + (byte.toNat - 0x80)) (lacking - 1) 0x80 0xBF, []) := by
  simp only [step, UInt8.le_iff_toNat_le, if_pos h]

theorem step_of_notMem (h : ¬ (low.toNat ≤ byte.toNat ∧ byte.toNat ≤ high.toNat)) :
    step (.within value lacking low high) byte = ((first byte).1, none :: (first byte).2) := by
  simp only [step, UInt8.le_iff_toNat_le, if_neg h]

end Within

section Ends

-- The bits that are read of a character are too many for one that ends a line.
def Sound : State → Prop
  | .ready => True
  | .within value lacking low _ =>
    0x80 ≤ low.toNat ∧ 2 ≤ if lacking ≤ 1 then value else value * 64 + (low.toNat - 0x80)

theorem Opens.sound {byte : UInt8} {bits lacking : Nat} {low high : UInt8}
    (h : Opens byte bits lacking low high) : Sound (.within bits lacking low high) := by
  cases h with
  | two _ h _ => simp [Sound, h]
  | three =>
    by_cases hlow : bits = 0
    · simp [Sound, hlow]
    · simp [Sound, hlow]
      omega
  | four =>
    by_cases hlow : bits = 0
    · simp [Sound, hlow]
    · simp [Sound, hlow]
      omega

theorem sound_first (byte : UInt8) : Sound (first byte).1 := by
  obtain ⟨-, hfirst⟩ | hfirst | ⟨_, _, _, _, hopens⟩ := first_cases byte
  · simp [hfirst, Sound]
  · simp [hfirst, Sound]
  · rw [hopens.first_eq]
    exact hopens.sound

theorem sound_step {state : State} (byte : UInt8) (h : Sound state) :
    Sound (step state byte).1 := by
  cases state with
  | ready => exact sound_first byte
  | within value lacking low high =>
    obtain ⟨hlow, hvalue⟩ := h
    by_cases hmem : low.toNat ≤ byte.toNat ∧ byte.toNat ≤ high.toNat
    · rw [step_of_mem hmem]
      by_cases hlast : lacking ≤ 1
      · simp [hlast, Sound]
      · rw [if_neg hlast] at hvalue ⊢
        simp only [Sound]
        split_ifs <;> simp <;> omega
    · rw [step_of_notMem hmem]
      exact sound_first byte

theorem isInline_first {byte : UInt8} (h : isLineEnd byte = false) :
    ∀ piece ∈ (first byte).2, IsInline piece := by
  intro piece hpiece
  obtain ⟨-, hfirst⟩ | hfirst | ⟨_, _, _, _, hopens⟩ := first_cases byte
  · simp only [isLineEnd, Bool.or_eq_false_iff, beq_eq_false_iff_ne, ne_eq,
      ← UInt8.toNat_inj] at h
    rw [hfirst, List.mem_singleton] at hpiece
    rw [hpiece]
    exact isInline_ofNat h.1 h.2
  · rw [hfirst, List.mem_singleton] at hpiece
    rw [hpiece]
    exact isInline_none
  · simp [hopens.first_eq] at hpiece

theorem isInline_step {state : State} {byte : UInt8} (hsound : Sound state)
    (h : isLineEnd byte = false) : ∀ piece ∈ (step state byte).2, IsInline piece := by
  cases state with
  | ready => exact isInline_first h
  | within value lacking low high =>
    obtain ⟨hlow, hvalue⟩ := hsound
    intro piece hpiece
    by_cases hmem : low.toNat ≤ byte.toNat ∧ byte.toNat ≤ high.toNat
    · rw [step_of_mem hmem] at hpiece
      by_cases hlast : lacking ≤ 1
      · rw [if_pos hlast, List.mem_singleton] at hpiece
        rw [if_pos hlast] at hvalue
        rw [hpiece]
        exact isInline_ofNat (by omega) (by omega)
      · simp [hlast] at hpiece
    · rw [step_of_notMem hmem] at hpiece
      cases hpiece with
      | head => exact isInline_none
      | tail _ hpiece => exact isInline_first h piece hpiece

theorem finish_first {byte : UInt8} (h : (first byte).2 = []) : finish (first byte).1 ≠ [] := by
  obtain ⟨-, hfirst⟩ | hfirst | ⟨_, _, _, _, hopens⟩ := first_cases byte
  · simp [hfirst] at h
  · simp [hfirst] at h
  · simp [hopens.first_eq, finish]

theorem finish_step {state : State} {byte : UInt8} (h : (step state byte).2 = []) :
    finish (step state byte).1 ≠ [] := by
  cases state with
  | ready => exact finish_first h
  | within value lacking low high =>
    by_cases hmem : low.toNat ≤ byte.toNat ∧ byte.toNat ≤ high.toNat
    · rw [step_of_mem hmem] at h ⊢
      by_cases hlast : lacking ≤ 1
      · simp [hlast] at h
      · simp [hlast, finish]
    · simp [step_of_notMem hmem] at h

-- A byte below 0x80 goes on with no character.
theorem step_ascii {state : State} {byte : UInt8} (hsound : Sound state)
    (h : byte.toNat < 0x80) :
    step state byte = (.ready, finish state ++ [some (Char.ofNat byte.toNat)]) := by
  cases state with
  | ready => exact first_ascii h
  | within value lacking low high =>
    have hout : ¬ (low.toNat ≤ byte.toNat ∧ byte.toNat ≤ high.toNat) := by
      have hlow := hsound.1
      omega
    rw [step_of_notMem hout, first_ascii h]
    rfl

end Ends

theorem meetsEnds : decoder.MeetsEnds Sound where
  start := trivial
  finish_start := rfl
  finish state piece hpiece := by
    cases state with
    | ready => simp [decoder, finish] at hpiece
    | within => simpa [decoder, finish] using hpiece
  feed hsound := step_ascii hsound (by decide)
  ret hsound := step_ascii hsound (by decide)
  sound hsound _ := sound_step _ hsound
  inline hsound hbyte := isInline_step hsound hbyte
  pending _ _ hnone := finish_step hnone

end Acrostic.Corpus.Utf8
