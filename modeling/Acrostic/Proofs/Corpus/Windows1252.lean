import Acrostic.Proofs.Corpus.Decoding
import Mathlib.Data.List.GetD

namespace Acrostic.Corpus.Windows1252

theorem isInline_charOf {byte : UInt8} (h : isLineEnd byte = false) :
    IsInline (some (charOf byte)) := by
  simp only [isLineEnd, Bool.or_eq_false_iff, beq_eq_false_iff_ne, ne_eq, ← UInt8.toNat_inj] at h
  have hcontrols : ∀ n ∈ upperControls, n ≠ 10 ∧ n ≠ 13 := by decide
  unfold charOf
  split_ifs with hbyte
  · exact isInline_ofNat h.1 h.2
  · by_cases hlt : byte.toNat - 0x80 < upperControls.length
    · obtain ⟨hfeed, hret⟩ := hcontrols _ (List.getElem_mem hlt)
      rw [List.getD_eq_getElem _ _ hlt]
      exact isInline_ofNat hfeed hret
    · rw [List.getD_eq_default _ _ (Nat.le_of_not_lt hlt)]
      exact isInline_ofNat (by decide) (by decide)

theorem meetsEnds : decoder.MeetsEnds (fun _ => True) where
  start := trivial
  finish_start := rfl
  finish _ _ hpiece := by simp [decoder] at hpiece
  feed _ := rfl
  ret _ := rfl
  sound _ _ := trivial
  inline _ hbyte piece hpiece := by
    rw [List.mem_singleton.mp hpiece]
    exact isInline_charOf hbyte
  pending _ _ hnone := by simp [decoder] at hnone

-- Every byte is a character.
theorem pieces_eq_map (bytes : List UInt8) :
    decoder.pieces () bytes = bytes.map (fun byte => some (charOf byte)) := by
  induction bytes with
  | nil => rfl
  | cons byte rest ih => exact congrArg (some (charOf byte) :: ·) ih

theorem run_eq_map (bytes : List UInt8) :
    decoder.run bytes = (bytes.map charOf).map some := by
  have hpieces : decoder.run bytes = decoder.pieces () bytes := Decoder.run_eq_pieces _ _
  rw [hpieces, pieces_eq_map, List.map_map]
  rfl

end Acrostic.Corpus.Windows1252
