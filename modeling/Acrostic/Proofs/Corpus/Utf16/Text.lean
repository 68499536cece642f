import Acrostic.Proofs.Corpus.Utf16.Ends

namespace Acrostic.Corpus.Utf16

section Bytes

theorem unit_bytes (order : ByteOrder) {unit : Nat} (h : unit < 0x10000) :
    ∃ first second, order.bytes unit = [first, second] ∧ order.unit first second = unit := by
  have hlow := UInt8.toNat_ofNat_of_lt' (show unit % 256 < 2 ^ 8 by omega)
  have hhigh := UInt8.toNat_ofNat_of_lt' (show unit / 256 < 2 ^ 8 by omega)
  cases order with
  | littleEndian =>
    refine ⟨_, _, rfl, ?_⟩
    simp only [ByteOrder.unit, hlow, hhigh]
    omega
  | bigEndian =>
    refine ⟨_, _, rfl, ?_⟩
    simp only [ByteOrder.unit, hlow, hhigh]
    omega

theorem bytes_unit (order : ByteOrder) (first second : UInt8) :
    order.bytes (order.unit first second) = [first, second] := by
  have hfirst := first.toNat_lt
  have hsecond := second.toNat_lt
  cases order with
  | littleEndian =>
    have hlow : (first.toNat + 256 * second.toNat) % 256 = first.toNat := by omega
    have hhigh : (first.toNat + 256 * second.toNat) / 256 = second.toNat := by omega
    simp only [ByteOrder.unit, ByteOrder.bytes, hlow, hhigh, UInt8.ofNat_toNat]
  | bigEndian =>
    have hlow : (256 * first.toNat + second.toNat) % 256 = second.toNat := by omega
    have hhigh : (256 * first.toNat + second.toNat) / 256 = first.toNat := by omega
    simp only [ByteOrder.unit, ByteOrder.bytes, hlow, hhigh, UInt8.ofNat_toNat]

theorem unit_lt (order : ByteOrder) (first second : UInt8) :
    order.unit first second < 0x10000 := by
  have hfirst := first.toNat_lt
  have hsecond := second.toNat_lt
  cases order <;> simp only [ByteOrder.unit] <;> omega

-- The bytes of a unit are read as the unit.
theorem pieces_bytes {order : ByteOrder} {unit : Nat} (h : unit < 0x10000) (lead : Option Nat)
    (rest : List UInt8) :
    (decoder order).pieces ⟨lead, none⟩ (order.bytes unit ++ rest) =
      (stepUnit lead unit).2 ++ (decoder order).pieces ⟨(stepUnit lead unit).1, none⟩ rest := by
  obtain ⟨first, second, hbytes, hunit⟩ := unit_bytes order h
  rw [hbytes, List.cons_append, List.singleton_append, pieces_cons_cons, hunit]

end Bytes

section Text

variable {order : ByteOrder}

theorem isLead_iff {unit : Nat} : isLead unit = true ↔ 0xD800 ≤ unit ∧ unit < 0xDC00 := by
  simp only [isLead, Bool.and_eq_true, decide_eq_true_eq]

theorem isTrail_iff {unit : Nat} : isTrail unit = true ↔ 0xDC00 ≤ unit ∧ unit < 0xE000 := by
  simp only [isTrail, Bool.and_eq_true, decide_eq_true_eq]

theorem stepUnit_of_pair {lead unit : Nat} (htrail : isTrail unit = true) :
    stepUnit (some lead) unit =
      (none, [some (Char.ofNat (0x10000 + (lead - 0xD800) * 0x400 + (unit - 0xDC00)))]) := by
  rw [stepUnit, if_pos htrail]

-- A character is read whole from its units, whatever follows.
theorem pieces_units (c : Char) (rest : List UInt8) :
    (decoder order).pieces ⟨none, none⟩ ((units c).flatMap order.bytes ++ rest) =
      some c :: (decoder order).pieces ⟨none, none⟩ rest := by
  have hvalid : c.toNat.isValidChar := c.valid
  by_cases hsingle : c.toNat < 0x10000
  · have hlead : isLead c.toNat = false := by
      rw [← Bool.not_eq_true, isLead_iff]
      omega
    have htrail : isTrail c.toNat = false := by
      rw [← Bool.not_eq_true, isTrail_iff]
      omega
    rw [units, if_pos hsingle, List.flatMap_cons, List.flatMap_nil, List.append_nil,
      pieces_bytes hsingle, stepUnit_of_single hlead htrail, Char.ofNat_toNat]
    rfl
  · have hlead : isLead (0xD800 + (c.toNat - 0x10000) / 0x400) = true := by
      rw [isLead_iff]
      omega
    have htrail : isTrail (0xDC00 + (c.toNat - 0x10000) % 0x400) = true := by
      rw [isTrail_iff]
      omega
    have hvalue : 0x10000 + (0xD800 + (c.toNat - 0x10000) / 0x400 - 0xD800) * 0x400 +
        (0xDC00 + (c.toNat - 0x10000) % 0x400 - 0xDC00) = c.toNat := by omega
    have hfirst : stepUnit none (0xD800 + (c.toNat - 0x10000) / 0x400) =
        (some (0xD800 + (c.toNat - 0x10000) / 0x400), []) := by
      rw [stepUnit, single, if_pos hlead]
    rw [units, if_neg hsingle, List.flatMap_cons, List.flatMap_cons, List.flatMap_nil,
      List.append_nil, List.append_assoc, pieces_bytes (by omega), hfirst,
      pieces_bytes (by omega), stepUnit_of_pair htrail, hvalue, Char.ofNat_toNat,
      List.nil_append, List.singleton_append]

theorem encode_cons (c : Char) (text : List Char) :
    encode order (c :: text) = (units c).flatMap order.bytes ++ encode order text := by
  rw [encode, List.flatMap_cons, List.flatMap_append]
  rfl

theorem run_encode (text : List Char) :
    (decoder order).run (encode order text) = text.map some := by
  rw [run_eq]
  induction text with
  | nil => rfl
  | cons c text ih => rw [encode_cons, pieces_units, ih, List.map_cons]

-- A surrogate is read without loss only as the first of a pair.
theorem exists_trail_of_isClean {lead : Nat} {bytes : List UInt8}
    (hclean : isClean ((decoder order).pieces ⟨some lead, none⟩ bytes) = true) :
    ∃ first second rest, bytes = first :: second :: rest ∧
      isTrail (order.unit first second) = true := by
  match bytes with
  | [] => simp [pieces_nil, finish, isClean] at hclean
  | [byte] => simp [pieces_singleton, isClean] at hclean
  | first :: second :: rest =>
    by_cases htrail : isTrail (order.unit first second) = true
    · exact ⟨first, second, rest, rfl, htrail⟩
    · rw [pieces_cons_cons, stepUnit, if_neg htrail] at hclean
      simp [isClean] at hclean

theorem units_single {unit : Nat} (h : unit < 0x10000) (hlead : isLead unit ≠ true)
    (htrail : isTrail unit ≠ true) : units (Char.ofNat unit) = [unit] := by
  have hvalid : unit.isValidChar := by
    rw [ne_eq, isLead_iff] at hlead
    rw [ne_eq, isTrail_iff] at htrail
    simp only [Nat.isValidChar]
    omega
  rw [units, toNat_ofNat hvalid, if_pos h]

theorem units_pair {lead unit : Nat} (hlead : isLead lead = true) (htrail : isTrail unit = true) :
    units (Char.ofNat (0x10000 + (lead - 0xD800) * 0x400 + (unit - 0xDC00))) = [lead, unit] := by
  rw [isLead_iff] at hlead
  rw [isTrail_iff] at htrail
  have hvalid : (0x10000 + (lead - 0xD800) * 0x400 + (unit - 0xDC00)).isValidChar := by
    simp only [Nat.isValidChar]
    omega
  have hfirst : 0xD800 + (0x10000 + (lead - 0xD800) * 0x400 + (unit - 0xDC00) - 0x10000) / 0x400 =
      lead := by omega
  have hsecond : 0xDC00 + (0x10000 + (lead - 0xD800) * 0x400 + (unit - 0xDC00) - 0x10000) % 0x400 =
      unit := by omega
  rw [units, toNat_ofNat hvalid, if_neg (by omega), hfirst, hsecond]

-- Bytes that are read without loss start with a character.
theorem exists_char_of_isClean {bytes : List UInt8} (hsome : bytes ≠ [])
    (hclean : isClean ((decoder order).pieces ⟨none, none⟩ bytes) = true) :
    ∃ c rest, bytes = (units c).flatMap order.bytes ++ rest ∧ rest.length < bytes.length := by
  match bytes with
  | [] => contradiction
  | [byte] => simp [pieces_singleton, isClean] at hclean
  | first :: second :: rest =>
    by_cases hlead : isLead (order.unit first second) = true
    · rw [pieces_cons_cons, stepUnit, single, if_pos hlead, List.nil_append] at hclean
      obtain ⟨third, fourth, more, rfl, htrail⟩ := exists_trail_of_isClean hclean
      obtain ⟨c, hc⟩ : ∃ c, units c = [order.unit first second, order.unit third fourth] :=
        ⟨_, units_pair hlead htrail⟩
      refine ⟨c, more, ?_, by simp +arith⟩
      rw [hc, List.flatMap_cons, List.flatMap_singleton, bytes_unit, bytes_unit]
      rfl
    by_cases htrail : isTrail (order.unit first second) = true
    · rw [pieces_cons_cons, stepUnit, single, if_neg hlead, if_pos htrail] at hclean
      simp [isClean] at hclean
    · refine ⟨Char.ofNat (order.unit first second), rest, ?_, by simp +arith⟩
      rw [units_single (unit_lt order first second) hlead htrail, List.flatMap_singleton,
        bytes_unit]
      rfl

theorem exists_text_of_isClean {bytes : List UInt8}
    (hclean : isClean ((decoder order).pieces ⟨none, none⟩ bytes) = true) :
    ∃ text, encode order text = bytes := by
  by_cases hnil : bytes = []
  · exact ⟨[], hnil.symm⟩
  · obtain ⟨c, rest, hbytes, hlt⟩ := exists_char_of_isClean hnil hclean
    rw [hbytes, pieces_units] at hclean
    obtain ⟨text, htext⟩ := exists_text_of_isClean (by simpa [isClean] using hclean)
    exact ⟨c :: text, by rw [hbytes, encode_cons, htext]⟩
termination_by bytes.length

-- The bytes that are read without loss are those of a text.
theorem isClean_run_iff {bytes : List UInt8} :
    isClean ((decoder order).run bytes) = true ↔ ∃ text, encode order text = bytes := by
  constructor
  · intro hclean
    rw [run_eq] at hclean
    exact exists_text_of_isClean hclean
  · rintro ⟨text, rfl⟩
    rw [run_encode]
    exact isClean_map_some text

end Text

end Acrostic.Corpus.Utf16
