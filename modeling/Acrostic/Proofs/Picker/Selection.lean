import Acrostic.Proofs.Picker
import Acrostic.Proofs.Text.Decimal
import Mathlib.Data.List.Induction

namespace Acrostic.Picker

open Text (FitsInteger integerLimit)

section Reference

-- The indices that the positions name, reduced to those of a token of the given length. Positions
-- outside the token go, unless they wrap around, and so does every index but the first time that it
-- is named, unless duplicates are wanted.
def chosen (picker : Picker) (length : Nat) : List Nat :=
  let present := if picker.roundRobin then picker.positions
    else picker.positions.filter fun position => -(length : Int) ≤ position ∧ position < length
  let indices := present.map fun position => (position % (length : Int)).toNat
  if picker.duplicates then indices else indices.eraseDups

variable {picker : Picker} {length : Nat}

theorem picked_eq_chosen (picker : Picker) (length : Nat) :
    picker.picked length = picker.chosen length := by
  have hreach : picker.positions.filter (picker.reaches length) =
      if picker.roundRobin then picker.positions
      else picker.positions.filter fun position =>
        -(length : Int) ≤ position ∧ position < length := by
    unfold reaches
    cases picker.roundRobin <;> simp
  rw [picked, named, hreach]
  rfl

theorem eraseDups_concat (indices : List Nat) (index : Nat) :
    (indices ++ [index]).eraseDups =
      if index ∈ indices then indices.eraseDups else indices.eraseDups ++ [index] := by
  rw [List.eraseDups_append]
  split_ifs with hmem <;> simp [List.removeAll, List.eraseDups_cons, hmem]

theorem nodup_eraseDups (indices : List Nat) : indices.eraseDups.Nodup := by
  induction indices using List.reverseRecOn with
  | nil => exact List.nodup_nil
  | append_singleton indices index ih =>
    rw [eraseDups_concat]
    split_ifs with hmem
    · exact ih
    · rw [List.nodup_append]
      refine ⟨ih, by simp, fun other hother last hlast => ?_⟩
      rw [List.mem_singleton.mp hlast]
      rintro rfl
      exact hmem (List.mem_eraseDups.mp hother)

theorem length_eraseDups_le (indices : List Nat) : indices.eraseDups.length ≤ indices.length := by
  induction indices using List.reverseRecOn with
  | nil => exact Nat.le_refl _
  | append_singleton indices index ih =>
    rw [eraseDups_concat, List.length_append]
    split_ifs with hmem
    · omega
    · rw [List.length_append]
      omega

theorem lt_of_mem_chosen (hlength : 0 < length) {index : Nat} (h : index ∈ picker.chosen length) :
    index < length := by
  have hmem : index ∈ picker.named length := by
    rw [← picked_eq_chosen] at h
    unfold picked at h
    split_ifs at h
    · exact h
    · exact List.mem_eraseDups.mp h
  obtain ⟨position, -, rfl⟩ := List.mem_map.mp hmem
  exact indexOf_lt hlength position

-- No index is missing from the token.
theorem map_some_filterMap {token : Token} {indices : List Nat}
    (h : ∀ index ∈ indices, index < token.length) :
    (indices.filterMap (token[·]?)).map some = indices.map (token[·]?) := by
  induction indices with
  | nil => rfl
  | cons index indices ih =>
    have hindex := List.getElem?_eq_getElem (h index (by simp))
    have hrest := ih fun other hother => h other (by simp [hother])
    rw [List.filterMap_cons_some hindex, List.map_cons, List.map_cons, hrest, hindex]

theorem map_some_select {token : Token} (htoken : token ≠ []) :
    (picker.select token).map some = (picker.chosen token.length).map (token[·]?) := by
  have hlength : 0 < token.length := List.length_pos_of_ne_nil htoken
  rw [select_eq_picked, picked_eq_chosen]
  exact map_some_filterMap fun index hindex => lt_of_mem_chosen hlength hindex

theorem length_select {token : Token} (htoken : token ≠ []) :
    (picker.select token).length = (picker.chosen token.length).length := by
  have hmap : ((picker.select token).map some).length =
      ((picker.chosen token.length).map (token[·]?)).length :=
    congrArg List.length (map_some_select htoken)
  rwa [List.length_map, List.length_map] at hmap

theorem length_chosen_le (hlength : 0 < length) (hdup : picker.duplicates = false) :
    (picker.chosen length).length ≤ min length picker.positions.length := by
  have hbound : ∀ index ∈ picker.chosen length, index ∈ List.range length := fun index hindex =>
    List.mem_range.mpr (lt_of_mem_chosen hlength hindex)
  have hpicked : picker.chosen length = (picker.named length).eraseDups := by
    rw [← picked_eq_chosen, picked, hdup, if_neg Bool.false_ne_true]
  have hnodup : (picker.chosen length).Nodup := hpicked ▸ nodup_eraseDups _
  have htoken := hnodup.length_le_of_subset hbound
  have hlist : (picker.chosen length).length ≤ (picker.named length).length :=
    hpicked ▸ length_eraseDups_le _
  have hnamed : (picker.named length).length ≤ picker.positions.length := by
    rw [named, List.length_map]
    exact List.length_filter_le _ _
  rw [List.length_range] at htoken
  omega

-- Positions that wrap around all name an index.
theorem chosen_ne_nil (hround : picker.roundRobin = true) (hsome : picker.positions ≠ []) :
    picker.chosen length ≠ [] := by
  obtain ⟨position, rest, hpositions⟩ := List.exists_cons_of_ne_nil hsome
  rw [chosen, hround, if_pos rfl, hpositions, List.map_cons]
  split_ifs
  · simp
  · simp [List.eraseDups_cons]

end Reference

section Checked

-- A result that is a 64-bit number
def fit? (value : Int) : Option Int :=
  if FitsInteger value then some value else none

-- The remainder that is not negative. There is none where the quotient is no 64-bit number.
def remainder? (value divisor : Int) : Option Int :=
  if divisor = 0 then none
  else do
    let _ ← fit? (value.tdiv divisor)
    let rest := value.tmod divisor
    if rest < 0 then fit? (rest + divisor.natAbs) else some rest

-- The selection on 64-bit numbers, with a mark for each character that is taken and may not be
-- taken again. A result that is no such number, or an index outside the token or its marks, ends
-- it.
def pickChecked? (picker : Picker) (token : Token) (marks : List Bool) :
    List Int → Option (List Char)
  | [] => some []
  | position :: rest => do
    let length ← fit? token.length
    let low ← fit? (-length)
    if !picker.roundRobin && (position < low || length ≤ position) then
      pickChecked? picker token marks rest
    else
      let index := (← remainder? position length).toNat
      if ← marks[index]? then pickChecked? picker token marks rest
      else
        let c ← token[index]?
        let others ← pickChecked? picker token
          (if picker.duplicates then marks else marks.set index true) rest
        return c :: others

def selectChecked? (picker : Picker) (token : Token) : Option (List Char) :=
  if token.isEmpty then some []
  else picker.pickChecked? token (List.replicate token.length false) picker.positions

variable {picker : Picker} {token : Token} {marks : List Bool} {seen : List Nat} {position : Int}
  {rest : List Int}

-- The marks are those of the indices that have been seen.
def Marks (length : Nat) (marks : List Bool) (seen : List Nat) : Prop :=
  ∀ index < length, marks[index]? = some (seen.contains index)

theorem marks_replicate (length : Nat) : Marks length (List.replicate length false) [] := by
  intro index hindex
  simp [hindex]

theorem Marks.set {length : Nat} (h : Marks length marks seen) (index : Nat) :
    Marks length (marks.set index true) (index :: seen) := by
  intro other hother
  have hmark := h other hother
  rw [List.getElem?_set, List.contains_cons]
  split_ifs with heq hshort
  · simp [heq]
  · rw [List.getElem?_eq_none (by omega)] at hmark
    contradiction
  · rw [hmark]
    simp [Ne.symm heq]

-- A character that is picked is marked unless it can be picked again.
theorem Marks.pick {length : Nat} (h : Marks length marks seen) (picker : Picker) (index : Nat) :
    Marks length (if picker.duplicates then marks else marks.set index true)
      (if picker.duplicates then seen else index :: seen) := by
  split_ifs
  · exact h
  · exact h.set index

-- The test for positions that lead out of the token
theorem outside_eq_not_reaches (picker : Picker) (length : Nat) (position : Int) :
    (!picker.roundRobin &&
        (decide (position < -(length : Int)) || decide ((length : Int) ≤ position))) =
      !picker.reaches length position := by
  rw [Bool.eq_iff_iff]
  cases hround : picker.roundRobin
  · simp only [reaches, hround, Bool.not_false, Bool.true_and, Bool.or_eq_true, Bool.false_or,
      Bool.not_eq_true', Bool.and_eq_false_iff, decide_eq_true_eq, decide_eq_false_iff_not]
    omega
  · simp [reaches, hround]

theorem fit?_of_fitsInteger {value : Int} (h : FitsInteger value) : fit? value = some value :=
  if_pos h

theorem fitsInteger_tdiv {value divisor : Int} (hvalue : FitsInteger value) (hpos : 0 < divisor) :
    FitsInteger (value.tdiv divisor) := by
  obtain ⟨hlow, hhigh⟩ := hvalue
  have hsize := Int.natAbs_tdiv_le_natAbs value divisor
  unfold FitsInteger
  by_cases hvalue : 0 ≤ value
  · have hquotient := Int.tdiv_nonneg hvalue (Int.le_of_lt hpos)
    omega
  · have hquotient := Int.tdiv_nonneg (show 0 ≤ -value by omega) (Int.le_of_lt hpos)
    rw [Int.neg_tdiv] at hquotient
    omega

-- The division goes towards zero, so that its remainder has the sign of the number.
theorem remainder?_eq {value divisor : Int} (hvalue : FitsInteger value) (hpos : 0 < divisor)
    (hdivisor : FitsInteger divisor) : remainder? value divisor = some (value % divisor) := by
  have hquotient := fit?_of_fitsInteger (fitsInteger_tdiv hvalue hpos)
  have hlow := Int.emod_nonneg value (show divisor ≠ 0 by omega)
  have hhigh := Int.emod_lt_of_pos value hpos
  have hrest := Int.tmod_eq_emod (a := value) (b := divisor)
  have hnonzero : divisor ≠ 0 := by omega
  simp only [remainder?, if_neg hnonzero, hquotient, Option.bind_eq_bind, Option.bind_some]
  unfold FitsInteger at hdivisor
  split_ifs at hrest ⊢ with hnegative hexact hexact
  · omega
  · have hsum : value.tmod divisor + divisor.natAbs = value % divisor := by omega
    rw [hsum]
    exact fit?_of_fitsInteger (by unfold FitsInteger; omega)
  · simp [hrest]
  · omega

-- The marks stand for the indices that have been seen, and every step stays within 64 bits.
theorem pickChecked?_eq_some (htoken : token ≠ []) (hlength : token.length < integerLimit)
    (hmarks : Marks token.length marks seen) {positions : List Int}
    (hpositions : ∀ position ∈ positions, FitsInteger position) :
    pickChecked? picker token marks positions = some (pickFrom picker token seen positions) := by
  have hpos : 0 < token.length := List.length_pos_of_ne_nil htoken
  have hfits : FitsInteger token.length := by
    unfold FitsInteger
    omega
  have hlow : FitsInteger (-(token.length : Int)) := by
    unfold FitsInteger
    omega
  induction positions generalizing marks seen with
  | nil => rfl
  | cons position rest ih =>
    have hrest : ∀ other ∈ rest, FitsInteger other := fun other hother =>
      hpositions other (List.mem_cons_of_mem _ hother)
    have hindex : indexOf token.length position < token.length := indexOf_lt hpos position
    have hremainder : remainder? position token.length = some (position % token.length) :=
      remainder?_eq (hpositions position (by simp)) (by omega) hfits
    simp only [pickChecked?, fit?_of_fitsInteger hfits, fit?_of_fitsInteger hlow, hremainder,
      Option.bind_eq_bind, Option.bind_some, outside_eq_not_reaches]
    cases hpresent : picker.reaches token.length position with
    | false =>
      rw [pickFrom_outside hpresent]
      exact ih hmarks hrest
    | true =>
      have hmark : marks[(position % (token.length : Int)).toNat]? =
          some (seen.contains (indexOf token.length position)) := hmarks _ hindex
      simp only [Bool.not_true, Bool.false_eq_true, if_false, hmark, Option.bind_some]
      by_cases hseen : indexOf token.length position ∈ seen
      · rw [pickFrom_seen hseen, if_pos (by simpa using hseen)]
        exact ih hmarks hrest
      · have hothers := ih (hmarks.pick picker (indexOf token.length position)) hrest
        unfold indexOf at hothers hindex
        rw [pickFrom_new htoken hpresent hseen, if_neg (by simpa using hseen)]
        unfold indexOf
        rw [List.getElem?_eq_getElem hindex, Option.bind_some, hothers]
        rfl

theorem selectChecked?_eq_some (hlength : token.length < integerLimit)
    (hpositions : ∀ position ∈ picker.positions, FitsInteger position) :
    picker.selectChecked? token = some (picker.select token) := by
  unfold selectChecked? select
  split_ifs with hempty
  · rfl
  · exact pickChecked?_eq_some (by simpa using hempty) hlength (marks_replicate _) hpositions

end Checked

-- Without duplicates there are at most as many characters as in the token and as positions, and
-- positions that wrap around always pick one. The selection on 64-bit numbers never fails.
theorem select_eq_chosen (picker : Picker) (token : Token) :
    (token = [] → picker.select token = []) ∧
      (token ≠ [] → (picker.select token).map some =
        (picker.chosen token.length).map (token[·]?)) ∧
      (picker.duplicates = false →
        (picker.select token).length ≤ min token.length picker.positions.length) ∧
      (token ≠ [] → picker.roundRobin = true → picker.positions ≠ [] →
        picker.select token ≠ []) ∧
      (token.length < integerLimit → (∀ position ∈ picker.positions, FitsInteger position) →
        picker.selectChecked? token = some (picker.select token)) := by
  have hempty (htoken : token = []) : picker.select token = [] := by
    subst htoken
    rfl
  refine ⟨hempty, map_some_select, fun hdup => ?_, fun htoken hround hsome hnil => ?_,
    selectChecked?_eq_some⟩
  · by_cases htoken : token = []
    · simp [hempty htoken]
    · rw [length_select htoken]
      exact length_chosen_le (List.length_pos_of_ne_nil htoken) hdup
  · have hlength : (picker.select token).length = (picker.chosen token.length).length :=
      length_select htoken
    rw [hnil, List.length_nil] at hlength
    exact chosen_ne_nil hround hsome (List.eq_nil_of_length_eq_zero hlength.symm)

-- The first and the last number of 64 bits name the same character.
theorem select_eq_chosen_ends :
    selectChecked? ⟨[-integerLimit, integerLimit - 1, 0], false, true⟩ "abc".toList =
      some "ba".toList := by
  obtain ⟨-, -, -, -, hchecked⟩ :=
    select_eq_chosen ⟨[-integerLimit, integerLimit - 1, 0], false, true⟩ "abc".toList
  rw [hchecked (by decide) (by decide)]
  rfl

end Acrostic.Picker
