import Acrostic.Proofs.Unicode.Ascii
import Acrostic.Unicode.Alphabetic
import Acrostic.Unicode.WhiteSpace

namespace Acrostic.Unicode

variable {c : Char}

theorem isAlpha_of_ascii (hc : c.toNat < 0x80) (h : isAlphabetic c = true) : c.isAlpha = true := by
  rwa [isAlphabetic, if_pos hc] at h

-- The white space beyond ASCII
def wideBlanks : List Nat :=
  [0x85, 0xA0, 0x1680, 0x2028, 0x2029, 0x202F, 0x205F, 0x3000] ++ List.range' 0x2000 0xB

theorem mem_wideBlanks (hc : 0x80 ≤ c.toNat) (h : isWhiteSpace c = true) :
    c.toNat ∈ wideBlanks := by
  simp only [isWhiteSpace, Bool.or_eq_true, Bool.and_eq_true, decide_eq_true_eq, beq_iff_eq] at h
  rw [wideBlanks, List.mem_append, List.mem_range'_1]
  simp only [List.mem_cons, List.not_mem_nil, or_false]
  omega

theorem contains_wideBlanks : ∀ point ∈ wideBlanks, alphabeticSet.contains point = false := by
  decide +kernel

-- No letter is white space.
theorem isWhiteSpace_of_isAlphabetic (h : isAlphabetic c = true) : isWhiteSpace c = false := by
  by_cases hc : c.toNat < 0x80
  · exact forall_ascii (P := fun c => c.isAlpha = true → isWhiteSpace c = false)
      (by decide) hc (isAlpha_of_ascii hc h)
  · rw [isAlphabetic, if_neg hc] at h
    rw [Bool.eq_false_iff]
    intro hblank
    rw [contains_wideBlanks c.toNat (mem_wideBlanks (by omega) hblank)] at h
    exact Bool.noConfusion h

theorem toNat_lt_of_isDigit (h : c.isDigit = true) : c.toNat < 0x80 := by
  have hlast : c.val ≤ '9'.val := of_decide_eq_true (Bool.and_eq_true_iff.mp h).2
  exact Nat.lt_of_le_of_lt hlast (by decide)

theorem isWhiteSpace_of_isDigit (h : c.isDigit = true) : isWhiteSpace c = false :=
  forall_ascii (P := fun c => c.isDigit = true → isWhiteSpace c = false) (by decide)
    (toNat_lt_of_isDigit h) h

end Acrostic.Unicode
