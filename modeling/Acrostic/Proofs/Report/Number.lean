import Acrostic.Proofs.Text.Decimal
import Acrostic.Proofs.Text.Words
import Acrostic.Report.Number
import Mathlib.Data.List.Induction

namespace Acrostic.Report

-- Groups of three characters behind a first one of one to three
structure IsGrouping (first : List Char) (others : List (List Char)) : Prop where
  one_le : 1 ≤ first.length
  le_three : first.length ≤ 3
  eq_three : ∀ group ∈ others, group.length = 3

-- Each digit behind a comma if the digits that are left, itself among them, make up whole groups
def separatedRest : List Char → List Char
  | [] => []
  | digit :: rest =>
    if (digit :: rest).length % 3 = 0 then ',' :: digit :: separatedRest rest
    else digit :: separatedRest rest

-- The digits from left to right, where no comma is in front of the first
def separated : List Char → List Char
  | [] => []
  | digit :: rest => digit :: separatedRest rest

section Separated

variable {digits group : List Char}

theorem separatedRest_append (hgroup : group.length = 3) (digits : List Char) :
    separatedRest (digits ++ group) = separatedRest digits ++ ',' :: group := by
  induction digits with
  | nil =>
    obtain ⟨hundreds, tens, ones, rfl⟩ := List.length_eq_three.mp hgroup
    simp [separatedRest]
  | cons digit digits ih =>
    -- three more digits do not change where commas are due
    have hdue : (digit :: (digits ++ group)).length % 3 = (digit :: digits).length % 3 := by
      rw [← List.cons_append, List.length_append, hgroup, Nat.add_mod_right]
    rw [List.cons_append, separatedRest, separatedRest, hdue, ih]
    split_ifs <;> rfl

-- Three more digits are a group of their own.
theorem separated_append (hsome : digits ≠ []) (hgroup : group.length = 3) :
    separated (digits ++ group) = separated digits ++ ',' :: group := by
  obtain ⟨digit, digits, rfl⟩ := List.exists_cons_of_ne_nil hsome
  exact congrArg (digit :: ·) (separatedRest_append hgroup digits)

theorem separated_of_length_le (h : digits.length ≤ 3) : separated digits = digits := by
  match digits with
  | [] | [_] | [_, _] | [_, _, _] => simp [separated, separatedRest]

-- Commas that are counted off from the end stand where they do when counting from the start.
theorem reverse_groupDigits (digits : List Char) :
    (groupDigits digits).reverse = separated digits.reverse := by
  fun_induction groupDigits digits with
  | case1 first second third next rest ih =>
    have hmore : separated ((next :: rest).reverse ++ [third, second, first]) =
        separated (next :: rest).reverse ++ [',', third, second, first] :=
      separated_append (by simp) rfl
    simpa [ih] using hmore.symm
  | case2 digits hshort =>
    match digits, hshort with
    | [], _ | [_], _ | [_, _], _ | [_, _, _], _ => simp [separated, separatedRest]
    | first :: second :: third :: next :: rest, hshort =>
      exact absurd rfl (hshort first second third next rest)

theorem grouped_eq_separated (value : Nat) : grouped value = separated (Text.natural value) := by
  rw [grouped, reverse_groupDigits, List.reverse_reverse]

end Separated

section Grouping

variable {digits first group text : List Char} {others : List (List Char)}

theorem isGrouping_concat_iff :
    IsGrouping first (others ++ [group]) ↔ IsGrouping first others ∧ group.length = 3 := by
  constructor
  · intro h
    refine ⟨⟨h.one_le, h.le_three, fun other hother => ?_⟩, h.eq_three group (by simp)⟩
    exact h.eq_three other (List.mem_append_left _ hother)
  · rintro ⟨h, hgroup⟩
    refine ⟨h.one_le, h.le_three, fun other hother => ?_⟩
    cases List.mem_append.mp hother with
    | inl hmem => exact h.eq_three other hmem
    | inr hlast => rwa [List.mem_singleton.mp hlast]

theorem exists_isGrouping {digits : List Char} (hsome : digits ≠ []) :
    ∃ first others, IsGrouping first others ∧ (first :: others).flatten = digits := by
  by_cases hshort : digits.length ≤ 3
  · exact ⟨digits, [], ⟨List.length_pos_of_ne_nil hsome, hshort, by simp⟩, by simp⟩
  · let front := digits.take (digits.length - 3)
    let group := digits.drop (digits.length - 3)
    have hsplit : front ++ group = digits := List.take_append_drop _ digits
    have hgroup : group.length = 3 := by
      rw [List.length_drop]
      omega
    have hfront : front ≠ [] := by
      intro hnil
      rw [← hsplit, hnil, List.nil_append, hgroup] at hshort
      exact hshort (Nat.le_refl 3)
    obtain ⟨first, others, h, hflatten⟩ := exists_isGrouping hfront
    refine ⟨first, others ++ [group], isGrouping_concat_iff.mpr ⟨h, hgroup⟩, ?_⟩
    rw [← List.cons_append, List.flatten_append, hflatten, List.flatten_singleton, hsplit]
termination_by digits.length
decreasing_by
  rw [List.length_take]
  omega

-- The commas stand between the groups.
theorem IsGrouping.splitOn_separated (h : IsGrouping first others)
    (hfree : ∀ group ∈ first :: others, ',' ∉ group) :
    (separated (first :: others).flatten).splitOn ',' = first :: others := by
  induction others using List.reverseRecOn with
  | nil =>
    rw [List.flatten_singleton, separated_of_length_le h.le_three,
      List.splitOn_eq_singleton (hfree first (by simp))]
  | append_singleton others group ih =>
    obtain ⟨hbefore, hgroup⟩ := isGrouping_concat_iff.mp h
    have hsome : (first :: others).flatten ≠ [] := by
      simp [List.ne_nil_of_length_pos h.one_le]
    rw [← List.cons_append] at hfree ⊢
    rw [List.flatten_append, List.flatten_singleton, separated_append hsome hgroup,
      Text.splitOn_concat_piece (hfree group (by simp)),
      ih hbefore fun other hother => hfree other (List.mem_append_left _ hother)]

-- There is one way to write digits in groups.
theorem eq_separated_iff (hsome : digits ≠ []) (hfree : ',' ∉ digits) :
    text = separated digits ↔
      text.filter (· != ',') = digits ∧
        ∃ first others, text.splitOn ',' = first :: others ∧ IsGrouping first others := by
  constructor
  · rintro rfl
    obtain ⟨first, others, h, rfl⟩ := exists_isGrouping hsome
    have hsplit := h.splitOn_separated fun group hgroup hmem =>
      hfree (List.mem_flatten.mpr ⟨group, hgroup, hmem⟩)
    exact ⟨by rw [← Text.flatten_splitOn, hsplit], first, others, hsplit, h⟩
  · rintro ⟨rfl, first, others, hsplit, h⟩
    have hseparated := h.splitOn_separated fun group hgroup =>
      Text.notMem_of_mem_splitOn (hsplit ▸ hgroup)
    calc text = [','].intercalate (first :: others) := by
          rw [← hsplit, List.intercalate_splitOn]
      _ = [','].intercalate ((separated (first :: others).flatten).splitOn ',') := by
          rw [hseparated]
      _ = separated (first :: others).flatten := List.intercalate_splitOn ','
      _ = separated (text.filter (· != ',')) := by rw [← hsplit, Text.flatten_splitOn]

end Grouping

section Grouped

variable {value : Nat}

theorem eq_grouped_iff {text : List Char} :
    text = grouped value ↔
      Text.IsDecimal value (text.filter (· != ',')) ∧
        ∃ first others, text.splitOn ',' = first :: others ∧ IsGrouping first others := by
  have hfree : ',' ∉ Text.natural value := fun hmem =>
    absurd (Text.isDigit_of_mem_natural hmem) (by decide)
  rw [grouped_eq_separated, eq_separated_iff (Text.natural_ne_nil value) hfree,
    Text.isDecimal_iff]

theorem grouped_injective {other : Nat} (h : grouped value = grouped other) : value = other := by
  have hvalue := (eq_grouped_iff.mp (rfl : grouped value = _)).1
  have hother := (eq_grouped_iff.mp h).1
  rw [← hvalue.value_eq, ← hother.value_eq]

end Grouped

-- A grouped number is the one text that has the digits of the number, without a leading zero, in
-- groups of three behind a first group of one to three. Its commas are those that are due from left
-- to right, and it shows no other number.
theorem grouped_reads_back (value : Nat) :
    (∀ text, text = grouped value ↔
      Text.IsDecimal value (text.filter (· != ',')) ∧
        ∃ first others, text.splitOn ',' = first :: others ∧ IsGrouping first others) ∧
      grouped value = separated (Text.natural value) ∧
      ∀ other, grouped other = grouped value ↔ other = value :=
  ⟨fun _ => eq_grouped_iff, grouped_eq_separated value,
    fun _ => ⟨grouped_injective, congrArg grouped⟩⟩

-- A million is the first number with two commas.
example : grouped 999999 = "999,999".toList ∧ grouped 1000000 = "1,000,000".toList := by
  decide

end Acrostic.Report
