import Acrostic.Length
import Acrostic.Proofs.Unicode.Ascii

namespace Acrostic

open Unicode (isWhiteSpace)

theorem isWhiteSpace_of_isAsciiBlank {c : Char} (h : isAsciiBlank c = true) :
    isWhiteSpace c = true := by
  simp only [isAsciiBlank, Bool.or_eq_true, beq_iff_eq] at h
  obtain (((rfl | rfl) | rfl) | hfeed) | rfl := h
  · rfl
  · rfl
  · rfl
  · simp [isWhiteSpace, hfeed]
  · rfl

-- Where spaces are all there is of white space, it does not matter which of it counts as blank.
theorem countP_not_blank {blank : Char → Bool} (hspace : blank ' ' = true)
    (hblank : ∀ c, blank c = true → isWhiteSpace c = true) {password : List Char}
    (h : ∀ c ∈ password, isWhiteSpace c = true → c = ' ') :
    password.countP (!blank ·) = (password.filter (· ≠ ' ')).length := by
  rw [← List.countP_eq_length_filter]
  apply List.countP_congr
  intro c hc
  have hiff : blank c = true ↔ c = ' ' :=
    ⟨fun hc' => h c hc (hblank c hc'), fun heq => heq ▸ hspace⟩
  simp [← hiff]

theorem passwordLength_eq {password : List Char}
    (h : ∀ c ∈ password, isWhiteSpace c = true → c = ' ') :
    passwordLength password = (password.filter (· ≠ ' ')).length := by
  unfold passwordLength
  split
  · exact countP_not_blank rfl (fun _ => isWhiteSpace_of_isAsciiBlank) h
  · exact countP_not_blank rfl (fun _ => id) h

section VerticalTab

-- White space, but no ASCII blank
def verticalTab : Char := '\x0B'

theorem isWhiteSpace_ascii_iff {c : Char} (h : c.toNat < 0x80) :
    isWhiteSpace c = true ↔ isAsciiBlank c = true ∨ c = verticalTab :=
  Unicode.forall_ascii
    (P := fun c => isWhiteSpace c = true ↔ isAsciiBlank c = true ∨ c = verticalTab) (by decide) h

theorem countP_not_isAsciiBlank {password : List Char} (h : ∀ c ∈ password, c.toNat < 0x80) :
    password.countP (!isAsciiBlank ·) =
      password.countP (!isWhiteSpace ·) + password.count verticalTab := by
  induction password with
  | nil => rfl
  | cons c password ih =>
    have hrest := ih fun d hd => h d (List.mem_cons_of_mem _ hd)
    have hc := isWhiteSpace_ascii_iff (h c (by simp))
    simp only [List.countP_cons, List.count_cons, hrest]
    by_cases htab : c = verticalTab
    · subst htab
      have hspace : isWhiteSpace verticalTab = true := rfl
      have hblank : isAsciiBlank verticalTab = false := rfl
      simp [hspace, hblank, Nat.add_assoc]
    · have hsame : isWhiteSpace c = isAsciiBlank c := by
        rw [Bool.eq_iff_iff, hc, or_iff_left htab]
      simp [hsame, htab, Nat.add_right_comm]

-- Vertical tabs are counted in ASCII passwords alone. There, and nowhere else, the length is not
-- the number of characters that are not white space.
theorem passwordLength_eq_countP_iff (password : List Char) :
    passwordLength password = password.countP (!isWhiteSpace ·) +
        (if password.all (·.toNat < 0x80) then password.count verticalTab else 0) ∧
      (passwordLength password = password.countP (!isWhiteSpace ·) ↔
        (password.all (·.toNat < 0x80) → verticalTab ∉ password)) := by
  have hlength : passwordLength password = password.countP (!isWhiteSpace ·) +
      (if password.all (·.toNat < 0x80) then password.count verticalTab else 0) := by
    unfold passwordLength
    split
    · next hascii => exact countP_not_isAsciiBlank (by simpa using hascii)
    · rw [Nat.add_zero]
  refine ⟨hlength, ?_⟩
  rw [hlength, Nat.add_eq_left]
  split
  · next hascii => rw [List.count_eq_zero, imp_iff_right hascii]
  · next hascii => exact iff_of_true rfl fun h => absurd h hascii

-- One letter beyond ASCII and the tab is not counted any more.
theorem passwordLength_verticalTab :
    passwordLength ['a', verticalTab, 'b'] ≠ ['a', verticalTab, 'b'].countP (!isWhiteSpace ·) ∧
      passwordLength ['a', verticalTab, 'b'] = 3 ∧ passwordLength ['ä', verticalTab, 'b'] = 2 := by
  decide

end VerticalTab

-- A password is routed by its length alone.
theorem LengthRange.route_congr {password other : List Char}
    (h : passwordLength password = passwordLength other) (lengths : LengthRange) :
    lengths.route password = lengths.route other := by
  rw [route, route, h]

end Acrostic
