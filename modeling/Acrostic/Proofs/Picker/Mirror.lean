import Acrostic.Proofs.Picker.Selection

namespace Acrostic.Picker

open Text (FitsInteger integerLimit)

-- The picker that counts from the other end: what was the first position is the last one.
def mirrored (picker : Picker) : Picker :=
  ⟨picker.positions.map (-1 - ·), picker.duplicates, picker.roundRobin⟩

@[simp] theorem duplicates_mirrored (picker : Picker) :
    picker.mirrored.duplicates = picker.duplicates :=
  rfl

@[simp] theorem roundRobin_mirrored (picker : Picker) :
    picker.mirrored.roundRobin = picker.roundRobin :=
  rfl

section Step

variable {length : Nat}

-- As many characters are in front of one index as behind the other.
theorem indexOf_mirrored (h : 0 < length) (position : Int) :
    indexOf length (-1 - position) + indexOf length position + 1 = length := by
  have hlow := Int.emod_nonneg position (show (length : Int) ≠ 0 by omega)
  have hhigh := Int.emod_lt_of_pos position (show 0 < (length : Int) by omega)
  have hposition := Int.emod_add_mul_ediv position length
  have hmirrored : -1 - position =
      length - 1 - position % length + length * (-1 - position / length) := by
    have hmul : (length : Int) * (-1 - position / length) =
        -length - length * (position / length) := by
      rw [Int.mul_sub, Int.mul_neg, Int.mul_one]
    omega
  have hindex : (-1 - position) % (length : Int) = length - 1 - position % length := by
    rw [hmirrored, Int.add_mul_emod_self_left]
    exact Int.emod_eq_of_lt (by omega) (by omega)
  unfold indexOf
  omega

-- The bounds of what is within reach are exchanged.
theorem reaches_mirrored (picker : Picker) (length : Nat) (position : Int) :
    picker.mirrored.reaches length (-1 - position) = picker.reaches length position := by
  unfold reaches
  rw [roundRobin_mirrored]
  cases picker.roundRobin with
  | true => rfl
  | false =>
    rw [Bool.eq_iff_iff]
    simp only [Bool.false_or, Bool.and_eq_true, decide_eq_true_eq]
    omega

theorem getElem?_mirrored {token : Token} (htoken : token ≠ []) (position : Int) :
    token.reverse[indexOf token.length (-1 - position)]? =
      token[indexOf token.length position]? := by
  have hindex := indexOf_mirrored (List.length_pos_of_ne_nil htoken) position
  rw [List.getElem?_reverse (by omega)]
  congr 1
  omega

end Step

section Run

variable {token : Token} {seen seenBack : List Nat}

-- What has been taken from the reversed token is what has been taken from the token.
def Mirrors (length : Nat) (seen seenBack : List Nat) : Prop :=
  ∀ index other, index + other + 1 = length → (index ∈ seenBack ↔ other ∈ seen)

theorem Mirrors.cons {length : Nat} (h : Mirrors length seen seenBack) {first back : Nat}
    (hback : back + first + 1 = length) : Mirrors length (first :: seen) (back :: seenBack) := by
  intro index other hindex
  have hfirst : index = back ↔ other = first := by omega
  rw [List.mem_cons, List.mem_cons, hfirst, h index other hindex]

-- Each step takes the same character in both directions, or none in both.
theorem pickFrom_mirrored (picker : Picker) (htoken : token ≠ [])
    (hseen : Mirrors token.length seen seenBack) (positions : List Int) :
    picker.mirrored.pickFrom token.reverse seenBack (positions.map (-1 - ·)) =
      picker.pickFrom token seen positions := by
  have htoken' : token.reverse ≠ [] := by simpa using htoken
  have hlength : token.reverse.length = token.length := List.length_reverse
  induction positions generalizing seen seenBack with
  | nil => rfl
  | cons position rest ih =>
    have hindex := indexOf_mirrored (List.length_pos_of_ne_nil htoken) position
    have htaken := hseen _ _ hindex
    have hreach := reaches_mirrored picker token.length position
    rw [List.map_cons]
    cases hpresent : picker.reaches token.length position with
    | false =>
      rw [pickFrom_outside hpresent, pickFrom_outside (by rw [hlength, hreach, hpresent])]
      exact ih hseen
    | true =>
      by_cases hold : indexOf token.length position ∈ seen
      · rw [pickFrom_seen hold, pickFrom_seen (by rw [hlength]; exact htaken.mpr hold)]
        exact ih hseen
      · have hnew : indexOf token.reverse.length (-1 - position) ∉ seenBack := by
          rw [hlength]
          exact fun hmem => hold (htaken.mp hmem)
        rw [pickFrom_new htoken hpresent hold,
          pickFrom_new htoken' (by rw [hlength, hreach, hpresent]) hnew, hlength,
          getElem?_mirrored htoken, duplicates_mirrored]
        congr 1
        split_ifs
        · exact ih hseen
        · exact ih (hseen.cons hindex)

end Run

theorem fitsInteger_mirrored {picker : Picker}
    (h : ∀ position ∈ picker.positions, FitsInteger position) :
    ∀ position ∈ picker.mirrored.positions, FitsInteger position := by
  intro position hposition
  obtain ⟨original, horiginal, rfl⟩ := List.mem_map.mp hposition
  have hfits := h original horiginal
  unfold FitsInteger at hfits ⊢
  omega

theorem select_reverse (picker : Picker) (token : Token) :
    picker.mirrored.select token.reverse = picker.select token := by
  by_cases htoken : token = []
  · subst htoken
    rfl
  · have hreverse : token.reverse.isEmpty = false := by simpa using htoken
    have hempty : token.isEmpty = false := by simpa using htoken
    simp only [select, hreverse, hempty, Bool.false_eq_true, if_false]
    exact pickFrom_mirrored picker htoken (fun _ _ _ => by simp) picker.positions

-- Counting from the end is counting from the start of the reversed token. For positions of 64
-- bits, those from the other end are also such numbers, and neither selection leaves them.
theorem select_mirrored (picker : Picker) (token : Token) :
    picker.mirrored.select token.reverse = picker.select token ∧
      ((∀ position ∈ picker.positions, FitsInteger position) →
        (∀ position ∈ picker.mirrored.positions, FitsInteger position) ∧
        (token.length < integerLimit →
          picker.selectChecked? token = some (picker.select token) ∧
          picker.mirrored.selectChecked? token.reverse = some (picker.select token))) := by
  have hselect := select_reverse picker token
  refine ⟨hselect, fun hpositions => ?_⟩
  have hmirrored := fitsInteger_mirrored hpositions
  refine ⟨hmirrored, fun hlength => ⟨selectChecked?_eq_some hlength hpositions, ?_⟩⟩
  have hlength' : token.reverse.length < integerLimit := by simpa using hlength
  rw [selectChecked?_eq_some hlength' hmirrored, hselect]

-- The least position of 64 bits becomes the greatest one.
theorem select_mirrored_ends :
    selectChecked? ⟨[-integerLimit, 2, -2, 0], false, true⟩ "abc".toList = some "bca".toList ∧
      selectChecked? ⟨[integerLimit - 1, -3, 1, -1], false, true⟩ "cba".toList =
        some "bca".toList := by
  obtain ⟨-, hchecked⟩ :=
    select_mirrored ⟨[-integerLimit, 2, -2, 0], false, true⟩ "abc".toList
  obtain ⟨hfront, hback⟩ := (hchecked (by decide)).2 (by decide)
  exact ⟨hfront.trans rfl, hback.trans rfl⟩

end Acrostic.Picker
