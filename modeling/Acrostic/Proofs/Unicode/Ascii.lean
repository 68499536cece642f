import Acrostic.Unicode.Casing
import Acrostic.Unicode.Normal
import Acrostic.Unicode.Word.Break

namespace Acrostic.Unicode

-- What holds of the first 128 characters, one after the other, holds of the ASCII characters.
theorem forall_ascii {P : Char → Prop} (h : ∀ point < 0x80, P (Char.ofNat point)) {c : Char}
    (hc : c.toNat < 0x80) : P c := by
  have hpoint := h c.toNat hc
  rwa [Char.ofNat_toNat] at hpoint

-- The ASCII characters are starters.
theorem combiningClass_ascii {c : Char} (h : c.toNat < 0x80) : combiningClass c = 0 :=
  if_pos (by omega)

theorem toNat_lt_of_isUpper {c : Char} (h : c.isUpper = true) : c.toNat < 0x80 := by
  have hlast : c.val ≤ 'Z'.val := (of_decide_eq_true h).2
  exact Nat.lt_of_le_of_lt hlast (by decide)

theorem toNat_lt_of_isLower {c : Char} (h : c.isLower = true) : c.toNat < 0x80 := by
  have hlast : c.val ≤ 'z'.val := of_decide_eq_true (Bool.and_eq_true_iff.mp h).2
  exact Nat.lt_of_le_of_lt hlast (by decide)

theorem toNat_lt_of_isAlpha {c : Char} (h : c.isAlpha = true) : c.toNat < 0x80 := by
  have hcases : (c.isUpper || c.isLower) = true := h
  obtain hupper | hlower := Bool.or_eq_true_iff.mp hcases
  · exact toNat_lt_of_isUpper hupper
  · exact toNat_lt_of_isLower hlower

section Casing

theorem lowerFrom_ascii {text : List Char} (h : ∀ c ∈ text, c.toNat < 0x80)
    (before done : List Char) :
    lowerFrom before done text = done.reverse ++ text.map Char.toLower := by
  induction text generalizing before done with
  | nil => simp [lowerFrom]
  | cons c text ih =>
    have hc : c.toNat < 0x80 := h c (by simp)
    have hsigma : c ≠ capitalSigma := by
      rintro rfl
      exact absurd hc (by decide)
    have hlower : lowerChar c = [c.toLower] := if_pos hc
    rw [lowerFrom, if_neg hsigma, hlower, ih fun d hd => h d (by simp [hd])]
    simp

-- No ASCII letter looks at its neighbours to become a small one.
theorem lowercase_ascii {text : List Char} (h : ∀ c ∈ text, c.toNat < 0x80) :
    lowercase text = text.map Char.toLower :=
  lowerFrom_ascii h [] []

end Casing

namespace WordBreak

variable {c : Char}

theorem isTransparent_ascii (h : c.toNat < 0x80) : (ofChar c).isTransparent = false :=
  forall_ascii (P := fun c => (ofChar c).isTransparent = false) (by decide) h

theorem eq_space_of_ascii (h : c.toNat < 0x80) (hkind : ofChar c = wSegSpace) : c = ' ' :=
  forall_ascii (P := fun c => ofChar c = wSegSpace → c = ' ') (by decide) h hkind

theorem eq_return_of_ascii (h : c.toNat < 0x80) (hkind : ofChar c = cr) : c = '\r' :=
  forall_ascii (P := fun c => ofChar c = cr → c = '\r') (by decide) h hkind

end WordBreak

end Acrostic.Unicode
