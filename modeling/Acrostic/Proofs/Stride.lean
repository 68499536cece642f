import Acrostic.Stride
import Mathlib.Tactic.SplitIfs

namespace Acrostic.Stride

variable {α β : Type}

-- The elements at the positions 0, step, twice the step and so on, looked up one by one
def multiples (step : Nat) (list : List α) : List α :=
  (List.range list.length).filterMap fun turn => list[turn * step]?

-- What is kept are the elements that stand a whole number of steps behind the first one that is.
theorem getElem?_keepFrom {step : Nat} (hstep : 0 < step) (skip : Nat) (list : List α)
    (turn : Nat) : (keepFrom step skip list)[turn]? = list[skip + turn * step]? := by
  fun_induction keepFrom step skip list generalizing turn with
  | case1 => simp
  | case2 first rest ih =>
    cases turn with
    | zero => simp
    | succ turn =>
      have hposition : 0 + (turn + 1) * step = step - 1 + turn * step + 1 := by
        rw [Nat.add_mul]
        omega
      rw [hposition, List.getElem?_cons_succ, List.getElem?_cons_succ]
      exact ih turn
  | case3 skip first rest ih =>
    rw [Nat.succ_add, List.getElem?_cons_succ]
    exact ih turn

-- To look further than a list reaches finds nothing.
theorem filterMap_getElem?_range {list : List α} {bound : Nat} (hbound : list.length ≤ bound) :
    (List.range bound).filterMap (fun turn => list[turn]?) = list := by
  induction list generalizing bound with
  | nil => simp
  | cons first rest ih =>
    obtain ⟨bound, rfl⟩ := Nat.exists_eq_add_one.mpr (Nat.zero_lt_of_lt hbound)
    rw [List.range_succ_eq_map, List.filterMap_cons, List.filterMap_map]
    exact congrArg (first :: ·) (ih (Nat.le_of_succ_le_succ hbound))

theorem keepFrom_eq_filterMap {step : Nat} (hstep : 0 < step) {skip bound : Nat} {list : List α}
    (hbound : list.length ≤ bound) :
    keepFrom step skip list =
      (List.range bound).filterMap fun turn => list[skip + turn * step]? := by
  have hkept : (keepFrom step skip list).length ≤ bound := by
    rw [← List.getElem?_eq_none_iff, getElem?_keepFrom hstep, List.getElem?_eq_none_iff]
    have hfar : bound ≤ bound * step := Nat.le_mul_of_pos_right bound hstep
    omega
  rw [← filterMap_getElem?_range hkept]
  simp only [getElem?_keepFrom hstep]

theorem keepFrom_one (list : List α) : keepFrom 1 0 list = list := by
  induction list with
  | nil => rfl
  | cons first rest ih => rw [keepFrom, ih]

theorem select_eq_keepFrom (stride : Stride) (list : List α) :
    stride.select list = keepFrom stride.step 0 list := by
  unfold select
  split_ifs with hone
  · rw [hone, keepFrom_one]
  · rfl

theorem select_eq_multiples (stride : Stride) (list : List α) :
    stride.select list = multiples stride.step list := by
  rw [select_eq_keepFrom, keepFrom_eq_filterMap stride.step_pos (Nat.le_refl _), multiples]
  simp only [Nat.zero_add]

-- What is done to each element can be done to the kept ones alone.
theorem multiples_map (step : Nat) (f : α → β) (list : List α) :
    multiples step (list.map f) = (multiples step list).map f := by
  unfold multiples
  rw [List.length_map, List.map_filterMap]
  simp only [List.getElem?_map]

end Acrostic.Stride
