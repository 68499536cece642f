import Acrostic.Corpus.Utf16
import Acrostic.Proofs.Corpus.Decoding

namespace Acrostic.Corpus.Utf16

variable {order : ByteOrder} {lead : Option Nat} {unit : Nat} {first second : UInt8}
  {rest : List UInt8}

-- Two bytes are read as a unit.
theorem pieces_cons_cons :
    (decoder order).pieces ⟨lead, none⟩ (first :: second :: rest) =
      (stepUnit lead (order.unit first second)).2 ++
        (decoder order).pieces ⟨(stepUnit lead (order.unit first second)).1, none⟩ rest :=
  rfl

theorem pieces_nil : (decoder order).pieces ⟨lead, none⟩ [] = finish ⟨lead, none⟩ :=
  rfl

theorem pieces_singleton : (decoder order).pieces ⟨lead, none⟩ [first] = [none] := by
  simp [Decoder.pieces, decoder, step, finish]

theorem run_eq (bytes : List UInt8) :
    (decoder order).run bytes = (decoder order).pieces ⟨none, none⟩ bytes :=
  Decoder.run_eq_pieces _ bytes

-- A unit that is no surrogate is a character, behind the surrogate that waits for another.
theorem stepUnit_of_single (hlead : isLead unit = false)
    (htrail : isTrail unit = false) :
    stepUnit lead unit = (none, finish ⟨lead, none⟩ ++ [some (Char.ofNat unit)]) := by
  cases lead with
  | none => simp [stepUnit, single, hlead, htrail, finish]
  | some lead => simp [stepUnit, single, hlead, htrail, finish]

-- A pair of surrogates encodes no character that one unit could encode.
theorem isInline_pair (lead unit : Nat) :
    IsInline (some (Char.ofNat (0x10000 + (lead - 0xD800) * 0x400 + (unit - 0xDC00)))) :=
  isInline_ofNat (by omega) (by omega)

section Inline

theorem isInline_single (hfeed : unit ≠ 10) (hret : unit ≠ 13) :
    ∀ piece ∈ (single unit).2, IsInline piece := by
  intro piece hpiece
  by_cases hlead : isLead unit = true
  · simp [single, hlead] at hpiece
  by_cases htrail : isTrail unit = true
  · simp [single, hlead, htrail] at hpiece
    rw [hpiece]
    exact isInline_none
  · simp [single, hlead, htrail] at hpiece
    rw [hpiece]
    exact isInline_ofNat hfeed hret

theorem isInline_stepUnit (hfeed : unit ≠ 10) (hret : unit ≠ 13) :
    ∀ piece ∈ (stepUnit lead unit).2, IsInline piece := by
  intro piece hpiece
  cases lead with
  | none => exact isInline_single hfeed hret piece hpiece
  | some lead =>
    by_cases htrail : isTrail unit = true
    · simp [stepUnit, htrail] at hpiece
      rw [hpiece]
      exact isInline_pair lead unit
    · simp [stepUnit, htrail] at hpiece
      cases hpiece with
      | inl hnone =>
        rw [hnone]
        exact isInline_none
      | inr hpiece => exact isInline_single hfeed hret piece hpiece

theorem isInline_finish (state : State) : ∀ piece ∈ finish state, IsInline piece := by
  intro piece hpiece
  simp only [finish] at hpiece
  split at hpiece
  · rw [List.mem_singleton.mp hpiece]
    exact isInline_none
  · simp at hpiece

end Inline

section Head

-- What a surrogate waits for is no end of a line.
theorem head?_pieces_some (waiting : Nat) (bytes : List UInt8) :
    ((decoder order).pieces ⟨some waiting, none⟩ bytes).head? ≠ some (some '\n') := by
  match bytes with
  | [] => simp [pieces_nil, finish]
  | [byte] => simp [pieces_singleton]
  | first :: second :: rest =>
    rw [pieces_cons_cons, stepUnit]
    by_cases htrail : isTrail (order.unit first second) = true
    · have hpair := isInline_pair waiting (order.unit first second)
      simpa [htrail] using hpair.1
    · simp [htrail]

theorem head?_run (hfeed : order.unit first second ≠ 10) :
    ((decoder order).run (first :: second :: rest)).head? ≠ some (some '\n') := by
  rw [run_eq, pieces_cons_cons, stepUnit, single]
  by_cases hlead : isLead (order.unit first second) = true
  · simpa [hlead] using head?_pieces_some _ _
  by_cases htrail : isTrail (order.unit first second) = true
  · simp [hlead, htrail]
  · have hne : Char.ofNat (order.unit first second) ≠ '\n' := by
      intro h
      exact hfeed (eq_toNat_of_ofNat_eq h (by decide))
    simpa [hlead, htrail] using hne

end Head

theorem pieces_some_ne_nil (waiting : Nat) (bytes : List UInt8) :
    (decoder order).pieces ⟨some waiting, none⟩ bytes ≠ [] := by
  match bytes with
  | [] => simp [pieces_nil, finish]
  | [byte] => simp [pieces_singleton]
  | first :: second :: rest =>
    rw [pieces_cons_cons, stepUnit]
    by_cases htrail : isTrail (order.unit first second) = true
    · simp [htrail]
    · simp [htrail]

-- No byte is passed over.
theorem run_ne_nil {bytes : List UInt8} (h : bytes ≠ []) : (decoder order).run bytes ≠ [] := by
  rw [run_eq]
  match bytes with
  | [] => contradiction
  | [byte] => simp [pieces_singleton]
  | first :: second :: rest =>
    rw [pieces_cons_cons, stepUnit, single]
    by_cases hlead : isLead (order.unit first second) = true
    · simpa [hlead] using pieces_some_ne_nil _ _
    · by_cases htrail : isTrail (order.unit first second) = true
      · simp [hlead, htrail]
      · simp [hlead, htrail]

-- A unit that ends a line is read in whatever state, and what follows from the start.
theorem pieces_of_single (hunit : order.unit first second = unit)
    (hlead : isLead unit = false) (htrail : isTrail unit = false) :
    (decoder order).pieces ⟨lead, none⟩ (first :: second :: rest) =
      finish ⟨lead, none⟩ ++ [some (Char.ofNat unit)] ++ (decoder order).run rest := by
  rw [pieces_cons_cons, hunit, stepUnit_of_single hlead htrail, run_eq]

-- Less than a unit is nothing but a character that is missing.
theorem isInline_pieces_of_short {bytes : List UInt8}
    (h : ∀ first second rest, bytes = first :: second :: rest → False) :
    ∀ piece ∈ (decoder order).pieces ⟨lead, none⟩ bytes, IsInline piece := by
  intro piece hpiece
  match bytes, h with
  | [], _ => exact isInline_finish _ piece hpiece
  | [byte], _ =>
    rw [pieces_singleton, List.mem_singleton] at hpiece
    exact hpiece ▸ isInline_none
  | first :: second :: rest, h => exact (h first second rest rfl).elim

-- The units of a line are decoded as if they stood alone, and so is the rest.
theorem pieces_cutUnits (line bytes : List UInt8) :
    ∃ more ending, (cutUnits order line bytes).line = line.reverse ++ more ∧
      (decoder order).pieces ⟨lead, none⟩ bytes =
        (decoder order).pieces ⟨lead, none⟩ more ++ ending ++
          (decoder order).run (cutUnits order line bytes).rest ∧
      Ends (some '\n') (some '\r') ending
        ((decoder order).run (cutUnits order line bytes).rest) ∧
      ∀ piece ∈ (decoder order).pieces ⟨lead, none⟩ more, IsInline piece := by
  fun_induction cutUnits order line bytes generalizing lead with
  | case1 line first second rest hfeed =>
    refine ⟨[], [some '\n'], by simp, ?_, .feed _, isInline_finish _⟩
    rw [pieces_of_single hfeed (by decide) (by decide)]
    rfl
  | case2 line first second _ hret third fourth rest hfeed =>
    refine ⟨[], [some '\r', some '\n'], by simp, ?_, .both _, isInline_finish _⟩
    rw [pieces_of_single hret (by decide) (by decide), run_eq,
      pieces_of_single hfeed (by decide) (by decide), List.append_assoc]
    exact (List.append_assoc _ [some '\r', some '\n'] _).symm
  | case3 line first second _ hret third fourth rest hfeed =>
    refine ⟨[], [some '\r'], by simp, ?_, .ret (head?_run hfeed), isInline_finish _⟩
    rw [pieces_of_single hret (by decide) (by decide)]
    rfl
  | case4 line first second rest _ hret hshort =>
    refine ⟨[], [some '\r'], by simp, ?_, .ret ?_, isInline_finish _⟩
    · rw [pieces_of_single hret (by decide) (by decide)]
      rfl
    · rw [run_eq]
      intro hhead
      exact (isInline_pieces_of_short hshort _ (List.mem_of_mem_head? hhead)).1 rfl
  | case5 line first second rest hfeed hret ih =>
    obtain ⟨more, ending, hline, hpieces, hends, hinline⟩ :=
      @ih (stepUnit lead (order.unit first second)).1
    refine ⟨first :: second :: more, ending, ?_, ?_, hends, ?_⟩
    · rw [hline]
      simp
    · rw [pieces_cons_cons, pieces_cons_cons, hpieces]
      simp only [List.append_assoc]
    · intro piece hpiece
      rw [pieces_cons_cons, List.mem_append] at hpiece
      cases hpiece with
      | inl hnow => exact isInline_stepUnit hfeed hret piece hnow
      | inr hlater => exact hinline piece hlater
  | case6 tail line hshort =>
    have hend : (decoder order).run [] = [] := by rw [run_eq, pieces_nil]; rfl
    refine ⟨tail, [], rfl, ?_, ?_, isInline_pieces_of_short hshort⟩
    · simp [hend]
    · simpa [hend] using Ends.atEnd

theorem run_cutUnits (bytes : List UInt8) :
    ∃ ending, (decoder order).run bytes =
        (decoder order).run (cutUnits order [] bytes).line ++ ending ++
          (decoder order).run (cutUnits order [] bytes).rest ∧
      Ends (some '\n') (some '\r') ending ((decoder order).run (cutUnits order [] bytes).rest) ∧
      ∀ piece ∈ (decoder order).run (cutUnits order [] bytes).line, IsInline piece := by
  obtain ⟨more, ending, hline, hpieces, hends, hinline⟩ :=
    @pieces_cutUnits order none [] bytes
  rw [List.reverse_nil, List.nil_append] at hline
  rw [run_eq bytes, run_eq (cutUnits order [] bytes).line, hline]
  exact ⟨ending, hpieces, hends, hinline⟩

end Acrostic.Corpus.Utf16
