import Acrostic.Report.Statistics
import Mathlib.Data.UInt

namespace Acrostic.Report.Statistics

section Increment

variable {name other : List Char} {counts : List (List Char × UInt64)}

-- Each name once, in the order of the names
def IsSorted (counts : List (List Char × UInt64)) : Prop :=
  counts.Pairwise fun first second => Text.precedes first.1 second.1 = true

theorem IsSorted.nodup (h : IsSorted counts) : (counts.map (·.1)).Nodup := by
  refine List.pairwise_map.mpr (h.imp fun {first second} hprecedes heq => ?_)
  rw [heq, Text.precedes_irrefl] at hprecedes
  contradiction

theorem mem_increment_of_ne {count : UInt64} (h : other ≠ name) :
    (other, count) ∈ increment name counts ↔ (other, count) ∈ counts := by
  induction counts with
  | nil => simp [increment, h]
  | cons first rest ih =>
    obtain ⟨found, known⟩ := first
    simp only [increment]
    split_ifs with heq hlt
    · subst heq
      simp [h]
    · simp [h]
    · simp [ih]

theorem mem_names_increment :
    other ∈ (increment name counts).map (·.1) ↔ other = name ∨ other ∈ counts.map (·.1) := by
  induction counts with
  | nil => simp [increment]
  | cons first rest ih =>
    obtain ⟨found, known⟩ := first
    simp only [increment]
    split_ifs with heq hlt
    · subst heq
      simp
    · simp
    · simp only [List.map_cons, List.mem_cons, ih]
      tauto

theorem notMem_of_precedes
    (h : ∀ entry ∈ counts, Text.precedes name entry.1 = true) : name ∉ counts.map (·.1) :=
  Text.notMem_of_precedes (List.forall_mem_map.mpr h)

theorem isSorted_increment (h : IsSorted counts) : IsSorted (increment name counts) := by
  induction counts with
  | nil => simp [IsSorted, increment]
  | cons first rest ih =>
    obtain ⟨found, known⟩ := first
    obtain ⟨hfirst, hrest⟩ := List.pairwise_cons.mp h
    simp only [increment]
    split_ifs with heq hlt
    · exact List.pairwise_cons.mpr ⟨hfirst, hrest⟩
    · refine List.pairwise_cons.mpr ⟨?_, h⟩
      intro entry hentry
      cases List.mem_cons.mp hentry with
      | inl hhead =>
        rw [hhead]
        exact hlt
      | inr hmem => exact Text.precedes_trans hlt (hfirst entry hmem)
    · refine List.pairwise_cons.mpr ⟨?_, ih hrest⟩
      intro entry hentry
      cases mem_names_increment.mp (List.mem_map_of_mem hentry) with
      | inl hname =>
        rw [hname]
        exact Text.precedes_of_not hlt heq
      | inr hmem =>
        obtain ⟨kept, hkept, hname⟩ := List.mem_map.mp hmem
        rw [← hname]
        exact hfirst kept hkept

-- The count of the name is one more, or the first.
theorem mem_increment_self {count : UInt64} (h : IsSorted counts) :
    (name, count) ∈ increment name counts ↔
      (∃ known, (name, known) ∈ counts ∧ count = known + 1) ∨
        name ∉ counts.map (·.1) ∧ count = 1 := by
  induction counts with
  | nil => simp [increment]
  | cons first rest ih =>
    obtain ⟨found, known⟩ := first
    obtain ⟨hfirst, hrest⟩ := List.pairwise_cons.mp h
    simp only [increment]
    split_ifs with heq hlt
    · subst heq
      have hnot : ∀ value, (name, value) ∉ rest := fun value hmem =>
        notMem_of_precedes hfirst (List.mem_map.mpr ⟨_, hmem, rfl⟩)
      simp [hnot]
    · have hnot : name ∉ ((found, known) :: rest).map (·.1) := by
        apply notMem_of_precedes
        intro entry hentry
        cases List.mem_cons.mp hentry with
        | inl hhead =>
          rw [hhead]
          exact hlt
        | inr hmem => exact Text.precedes_trans hlt (hfirst entry hmem)
      have hnone : ∀ value, (name, value) ∉ (found, known) :: rest := fun value hmem =>
        hnot (List.mem_map_of_mem hmem)
      rw [List.mem_cons]
      simp only [hnone, hnot, Prod.mk.injEq, true_and, or_false, false_and, exists_false, false_or,
        not_false_eq_true]
    · simp only [List.mem_cons, Prod.mk.injEq, heq, false_and, false_or, ih hrest, List.map_cons]

theorem sum_increment :
    ((increment name counts).map (·.2)).sum = (counts.map (·.2)).sum + 1 := by
  induction counts with
  | nil => simp [increment]
  | cons first rest ih =>
    obtain ⟨found, known⟩ := first
    simp only [increment]
    split_ifs with heq hlt
    · simp only [List.map_cons, List.sum_cons]
      rw [UInt64.add_assoc, UInt64.add_comm 1, ← UInt64.add_assoc]
    · simp only [List.map_cons, List.sum_cons]
      rw [UInt64.add_comm]
    · simp only [List.map_cons, List.sum_cons, ih]
      rw [UInt64.add_assoc]

end Increment

end Acrostic.Report.Statistics
