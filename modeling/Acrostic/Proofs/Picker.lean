import Acrostic.Picker
import Mathlib.Tactic.SplitIfs

namespace Acrostic.Picker

-- The index that a position names in a token of the given length
def indexOf (length : Nat) (position : Int) : Nat :=
  (position % (length : Int)).toNat

-- The indices that the positions within reach name, in the order of the positions
def named (picker : Picker) (length : Nat) : List Nat :=
  (picker.positions.filter (picker.reaches length)).map (indexOf length)

-- The indices of the characters that are picked: unless duplicates are wanted, each of them once
def picked (picker : Picker) (length : Nat) : List Nat :=
  if picker.duplicates then picker.named length else (picker.named length).eraseDups

theorem indexOf_lt {length : Nat} (h : 0 < length) (position : Int) :
    indexOf length position < length := by
  have hlt : position % (length : Int) < length := Int.emod_lt_of_pos position (by omega)
  unfold indexOf
  omega

section PickFrom

variable {picker : Picker} {token : Token} {seen : List Nat} {position : Int} {rest : List Int}

theorem pickFrom_outside (h : picker.reaches token.length position = false) :
    pickFrom picker token seen (position :: rest) = pickFrom picker token seen rest := by
  simp [pickFrom, h]

theorem pickFrom_seen (h : indexOf token.length position ∈ seen) :
    pickFrom picker token seen (position :: rest) = pickFrom picker token seen rest := by
  unfold indexOf at h
  simp [pickFrom, h]

-- A character is picked that the token has.
theorem pickFrom_new (htoken : token ≠ []) (hreach : picker.reaches token.length position = true)
    (hnew : indexOf token.length position ∉ seen) :
    pickFrom picker token seen (position :: rest) =
      (token[indexOf token.length position]?).toList ++
        pickFrom picker token
          (if picker.duplicates then seen else indexOf token.length position :: seen) rest := by
  have hlt := indexOf_lt (List.length_pos_iff.mpr htoken) position
  have hseen : seen.contains (indexOf token.length position) = false := by simpa using hnew
  rw [List.getElem?_eq_getElem hlt]
  unfold indexOf at hlt hseen ⊢
  simp only [pickFrom, hreach, hseen, Bool.not_true, Bool.or_false, Bool.false_eq_true, if_false,
    List.getElem?_eq_getElem hlt]
  rfl

theorem pickFrom_eq_of_duplicates (htoken : token ≠ []) (hdup : picker.duplicates = true)
    (positions : List Int) :
    pickFrom picker token [] positions =
      ((positions.filter (picker.reaches token.length)).map
        (indexOf token.length)).filterMap (token[·]?) := by
  induction positions with
  | nil => rfl
  | cons position rest ih =>
    cases hreach : picker.reaches token.length position with
    | false => rw [pickFrom_outside hreach, ih, List.filter_cons_of_neg (by simp [hreach])]
    | true =>
      rw [pickFrom_new htoken hreach (List.not_mem_nil), hdup, if_pos rfl, ih,
        List.filter_cons_of_pos hreach, List.map_cons]
      cases h : token[indexOf token.length position]? <;> simp [h]

-- What is seen leaves out what has been picked before, and nothing else.
theorem pickFrom_eq_of_distinct (htoken : token ≠ []) (hdup : picker.duplicates = false)
    (seen : List Nat) (positions : List Int) :
    pickFrom picker token seen positions =
      ((((positions.filter (picker.reaches token.length)).map (indexOf token.length)).filter
        (!seen.contains ·)).eraseDups).filterMap (token[·]?) := by
  induction positions generalizing seen with
  | nil => rfl
  | cons position rest ih =>
    cases hreach : picker.reaches token.length position with
    | false => rw [pickFrom_outside hreach, ih, List.filter_cons_of_neg (by simp [hreach])]
    | true =>
      rw [List.filter_cons_of_pos hreach, List.map_cons]
      by_cases hseen : indexOf token.length position ∈ seen
      · rw [pickFrom_seen hseen, ih, List.filter_cons_of_neg (by simpa using hseen)]
      · rw [pickFrom_new htoken hreach hseen, hdup, if_neg Bool.false_ne_true, ih,
          List.filter_cons_of_pos (by simpa using hseen), List.eraseDups_cons, List.filter_filter]
        have hrest (index : Nat) :
            (!(indexOf token.length position :: seen).contains index) =
              (!index == indexOf token.length position && !seen.contains index) := by
          rw [List.contains_cons, Bool.not_or]
        simp only [hrest]
        cases h : token[indexOf token.length position]? <;> simp [h]

end PickFrom

-- The characters are picked one by one at the indices that are named.
theorem select_eq_picked (picker : Picker) (token : Token) :
    picker.select token = (picker.picked token.length).filterMap (token[·]?) := by
  unfold select picked named
  by_cases htoken : token = []
  · subst htoken
    simp
  · rw [if_neg (by simpa using htoken)]
    split_ifs with hdup
    · exact pickFrom_eq_of_duplicates htoken hdup _
    · have hunseen (indices : List Nat) : indices.filter (!([] : List Nat).contains ·) = indices :=
        List.filter_eq_self.mpr fun _ _ => rfl
      rw [pickFrom_eq_of_distinct htoken (by simpa using hdup), hunseen]

end Acrostic.Picker
