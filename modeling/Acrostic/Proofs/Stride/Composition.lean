import Acrostic.Proofs.Stride
import Mathlib.Algebra.Order.Floor.Div

namespace Acrostic.Stride

variable {α : Type}

-- The count that a stride is made from
theorem ofCount_step (stride : Stride) : ofCount stride.step = .ok stride :=
  dif_pos stride.step_pos

theorem getElem?_select (stride : Stride) (list : List α) (turn : Nat) :
    (stride.select list)[turn]? = list[turn * stride.step]? := by
  rw [select_eq_keepFrom, getElem?_keepFrom stride.step_pos, Nat.zero_add]

-- A turn finds nothing exactly where its element would stand behind the list.
theorem length_select (stride : Stride) (list : List α) :
    (stride.select list).length = list.length ⌈/⌉ stride.step := by
  refine eq_of_forall_ge_iff fun turn => ?_
  rw [ceilDiv_le_iff_le_mul stride.step_pos, Nat.mul_comm, ← List.getElem?_eq_none_iff,
    ← List.getElem?_eq_none_iff, getElem?_select]

theorem select_select {first second product : Stride}
    (hproduct : product.step = first.step * second.step) (list : List α) :
    first.select (second.select list) = product.select list := by
  apply List.ext_getElem?
  intro turn
  rw [getElem?_select, getElem?_select, getElem?_select, hproduct, Nat.mul_assoc]

-- A selection keeps one element of each step, the first step being where the list begins and the
-- last one as much of a step as is left. Keeping everything is no exception, and a selection from
-- a selection is one with the product of their steps.
theorem select_eq_steps (stride : Stride) (list : List α) :
    ofCount stride.step = .ok stride ∧
      (stride.select list).length = list.length ⌈/⌉ stride.step ∧
      (∀ turn, (stride.select list)[turn]? = list[turn * stride.step]?) ∧
      stride.select list = keepFrom stride.step 0 list ∧
      ∀ outer : Stride, ∃ product, ofCount (outer.step * stride.step) = .ok product ∧
        outer.select (stride.select list) = product.select list := by
  refine ⟨ofCount_step stride, length_select stride list, getElem?_select stride list,
    select_eq_keepFrom stride list, fun outer => ?_⟩
  let product : Stride := ⟨outer.step * stride.step, Nat.mul_pos outer.step_pos stride.step_pos⟩
  exact ⟨product, ofCount_step product, select_select rfl list⟩

-- Every second of every third of seven words
example : select ⟨2, by decide⟩ (select ⟨3, by decide⟩ "abcdefg".toList) = "ag".toList := by
  decide

end Acrostic.Stride
