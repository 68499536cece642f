import Acrostic.Text.Decimal
import Mathlib.Data.List.Basic

namespace Acrostic.Text

-- A number with any count of zeros in front
def zeroPadded (zeros value : Nat) : List Char :=
  List.replicate zeros '0' ++ natural value

-- One or more ASCII digits with this value
structure IsNumeral (value : Nat) (digits : List Char) : Prop where
  ne_nil : digits ≠ []
  isDigit : ∀ c ∈ digits, c.isDigit = true
  value_eq : Nat.ofDigitChars 10 digits 0 = value

-- The digits of a value, none of them a leading zero
structure IsDecimal (value : Nat) (digits : List Char) : Prop extends IsNumeral value digits where
  eq_of_head? : digits.head? = some '0' → digits = ['0']

-- The sign that may stand in front of the digits
def plusSign (signed : Bool) : List Char :=
  if signed then ['+'] else []

-- What a signed 64-bit number can be
def FitsInteger (value : Int) : Prop :=
  -(integerLimit : Int) ≤ value ∧ value < integerLimit

instance : DecidablePred FitsInteger := fun value =>
  inferInstanceAs (Decidable (-(integerLimit : Int) ≤ value ∧ value < integerLimit))

section Numeral

variable {text : List Char} {value : Nat}

theorem digitsValue_of_isDigit (h : ∀ c ∈ text, c.isDigit = true) (value : Nat) :
    digitsValue value text = some (Nat.ofDigitChars 10 text value) := by
  induction text generalizing value with
  | nil => rfl
  | cons c text ih =>
    rw [digitsValue, if_pos (h c (by simp)), ih fun d hd => h d (by simp [hd])]
    rfl

theorem readDigits?_of_isDigit (hsome : text ≠ []) (h : ∀ c ∈ text, c.isDigit = true) :
    readDigits? text = some (Nat.ofDigitChars 10 text 0) := by
  rw [readDigits?, if_neg (by simpa using hsome), digitsValue_of_isDigit h]

theorem isDigit_of_digitsValue {start : Nat} (h : digitsValue start text = some value) :
    ∀ c ∈ text, c.isDigit = true := by
  induction text generalizing start with
  | nil => simp
  | cons c text ih =>
    rw [digitsValue] at h
    split at h
    · simpa [*] using ih h
    · contradiction

theorem readDigits?_eq_some_iff : readDigits? text = some value ↔ IsNumeral value text := by
  constructor
  · intro h
    have hsome : text ≠ [] := by
      rintro rfl
      contradiction
    have hdigits : ∀ c ∈ text, c.isDigit = true := by
      rw [readDigits?, if_neg (by simpa using hsome)] at h
      exact isDigit_of_digitsValue h
    rw [readDigits?_of_isDigit hsome hdigits] at h
    exact ⟨hsome, hdigits, Option.some.inj h⟩
  · intro h
    rw [readDigits?_of_isDigit h.ne_nil h.isDigit, h.value_eq]

-- No digit is a sign, so that it is plain where the digits begin.
theorem IsNumeral.head_ne_of_eq {c : Char} {rest : List Char} (h : IsNumeral value text)
    (htext : text = c :: rest) : c ≠ '+' ∧ c ≠ '-' := by
  have hdigit := h.isDigit c (by simp [htext])
  constructor
  · rintro rfl
    contradiction
  · rintro rfl
    contradiction

theorem IsNumeral.eq_of_plusSign_append {signed also : Bool} {other : Nat}
    {digits others : List Char} (h : IsNumeral value digits) (h' : IsNumeral other others)
    (heq : plusSign signed ++ digits = plusSign also ++ others) :
    signed = also ∧ digits = others := by
  cases signed with
  | false =>
    cases also with
    | false => exact ⟨rfl, heq⟩
    | true => exact absurd rfl (h.head_ne_of_eq heq).1
  | true =>
    cases also with
    | false => exact absurd rfl (h'.head_ne_of_eq heq.symm).1
    | true => exact ⟨rfl, (List.cons.inj heq).2⟩

theorem readNatural?_eq_some_iff {limit : Nat} :
    readNatural? limit text = some value ↔
      value < limit ∧
        ∃ signed digits, text = plusSign signed ++ digits ∧ IsNumeral value digits := by
  unfold readNatural?
  rw [Option.filter_eq_some_iff, readDigits?_eq_some_iff, decide_eq_true_iff, and_comm]
  refine and_congr_right fun _ => ?_
  split
  next rest =>
    constructor
    · intro h
      exact ⟨true, rest, rfl, h⟩
    · rintro ⟨signed, digits, htext, h⟩
      cases signed with
      | true => rwa [(List.cons.inj htext).2]
      | false => exact absurd rfl (h.head_ne_of_eq htext.symm).1
  next hsign =>
    constructor
    · intro h
      exact ⟨false, text, rfl, h⟩
    · rintro ⟨signed, digits, htext, h⟩
      cases signed with
      | true => exact absurd htext (hsign digits)
      | false => rwa [show text = digits from htext]

-- A minus sign leaves no positive number.
theorem readInteger?_eq_some_iff (hpos : 0 < value) :
    readInteger? text = some (value : Int) ↔
      value < integerLimit ∧
        ∃ signed digits, text = plusSign signed ++ digits ∧ IsNumeral value digits := by
  unfold readInteger?
  split
  next rest =>
    constructor
    · intro h
      obtain ⟨negated, hread, hvalue⟩ := Option.map_eq_some_iff.mp h
      obtain ⟨magnitude, -, hmagnitude⟩ := Option.bind_eq_some_iff.mp hread
      have hnegated : (magnitude : Int) = negated := Option.some.inj hmagnitude
      omega
    · rintro ⟨-, signed, digits, htext, h⟩
      cases signed with
      | true => exact absurd (List.cons.inj htext).1 (by decide)
      | false => exact absurd rfl (h.head_ne_of_eq htext.symm).2
  next =>
    rw [← readNatural?_eq_some_iff]
    constructor
    · intro h
      obtain ⟨found, hread, hfound⟩ :
          ∃ found, readNatural? integerLimit text = some found ∧ (found : Int) = value := by
        simpa [Option.bind_eq_some_iff] using h
      rw [hread, Int.ofNat_inj.mp hfound]
    · intro h
      simp [h]

end Numeral

section Natural

theorem isDigit_of_mem_natural {value : Nat} {c : Char} (h : c ∈ natural value) :
    c.isDigit = true :=
  Nat.isDigit_of_mem_toDigits (by decide) (Nat.le_refl 10) h

theorem natural_ne_nil (value : Nat) : natural value ≠ [] := by
  simp [natural]

theorem natural_injective {first second : Nat} (h : natural first = natural second) :
    first = second := by
  have hvalue := congrArg (Nat.ofDigitChars 10 · 0) h
  simpa [natural] using hvalue

theorem takeWhile_isDigit_natural_append (value : Nat) {c : Char} (hc : c.isDigit = false)
    (rest : List Char) : (natural value ++ c :: rest).takeWhile Char.isDigit = natural value := by
  rw [List.takeWhile_append_of_pos fun d hd => isDigit_of_mem_natural hd]
  simp [hc]

-- A number ends where something else than a digit follows.
theorem natural_append_inj {first second : Nat} {c d : Char} {rest others : List Char}
    (hc : c.isDigit = false) (hd : d.isDigit = false)
    (h : natural first ++ c :: rest = natural second ++ d :: others) :
    first = second ∧ c = d ∧ rest = others := by
  have hdigits := congrArg (List.takeWhile Char.isDigit) h
  rw [takeWhile_isDigit_natural_append first hc, takeWhile_isDigit_natural_append second hd]
    at hdigits
  rw [hdigits] at h
  exact ⟨natural_injective hdigits, List.cons.inj (List.append_cancel_left h)⟩

end Natural

section ZeroPadded

theorem ofDigitChars_zeroPadded (zeros value : Nat) :
    Nat.ofDigitChars 10 (zeroPadded zeros value) 0 = value := by
  rw [zeroPadded, Nat.ofDigitChars_append, Nat.ofDigitChars_replicate_zero, Nat.mul_zero]
  exact Nat.ofDigitChars_toDigits (by decide) (Nat.le_refl 10)

theorem zeroPadded_ne_nil (zeros value : Nat) : zeroPadded zeros value ≠ [] :=
  List.append_ne_nil_of_right_ne_nil _ (natural_ne_nil value)

theorem isDigit_of_mem_zeroPadded {zeros value : Nat} {c : Char}
    (h : c ∈ zeroPadded zeros value) : c.isDigit = true := by
  cases List.mem_append.mp h with
  | inl hzero =>
    rw [List.eq_of_mem_replicate hzero]
    rfl
  | inr hdigit => exact isDigit_of_mem_natural hdigit

-- Zeros in front do not change the value.
theorem isNumeral_zeroPadded (zeros value : Nat) : IsNumeral value (zeroPadded zeros value) where
  ne_nil := zeroPadded_ne_nil zeros value
  isDigit := fun _ hc => isDigit_of_mem_zeroPadded hc
  value_eq := ofDigitChars_zeroPadded zeros value

end ZeroPadded

section Decimal

variable {digits : List Char} {c : Char} {start value : Nat}

theorem digitValue_lt (h : c.isDigit = true) : digitValue c < 10 := by
  have hle : c.toNat ≤ '9'.toNat := (Char.isDigit_iff_toNat.mp h).2
  have hdistance : '9'.toNat = '0'.toNat + 9 := rfl
  simp only [digitValue]
  omega

theorem natural_digitValue (h : c.isDigit = true) : natural (digitValue c) = [c] := by
  have hlt := digitValue_lt h
  have hle : '0'.toNat ≤ c.toNat := (Char.isDigit_iff_toNat.mp h).1
  rw [natural, Nat.toDigits_of_lt_base hlt, List.singleton_inj]
  apply Char.toNat_inj.mp
  rw [Nat.toNat_digitChar_of_lt_ten hlt]
  exact Nat.add_sub_of_le hle

-- Digits behind a number are its next ones, unless the number is zero.
theorem natural_append (hstart : 0 < start) (h : ∀ c ∈ digits, c.isDigit = true) :
    natural start ++ digits = natural (Nat.ofDigitChars 10 digits start) := by
  induction digits generalizing start with
  | nil => exact List.append_nil _
  | cons c digits ih =>
    have hc : c.isDigit = true := h c (by simp)
    have hnext : natural start ++ [c] = natural (10 * start + digitValue c) := by
      rw [← natural_digitValue hc]
      exact Nat.toDigits_append_toDigits (by decide) hstart (digitValue_lt hc)
    have hpos : 0 < 10 * start + digitValue c := by omega
    have hrest := ih hpos fun d hd => h d (by simp [hd])
    rw [Nat.ofDigitChars_cons, ← digitValue, ← hrest, ← hnext, List.append_assoc,
      List.singleton_append]

-- Only zero begins with the digit zero.
theorem eq_zero_of_head?_natural (h : (natural value).head? = some '0') : value = 0 := by
  induction value using Nat.strongRecOn with
  | ind value ih =>
    by_cases hshort : value < 10
    · rw [natural, Nat.toDigits_of_lt_base hshort] at h
      exact Nat.digitChar_eq_zero.mp (Option.some.inj h)
    · have hlong : 10 ≤ value := Nat.le_of_not_lt hshort
      have hsplit : natural value = natural (value / 10) ++ [(value % 10).digitChar] :=
        Nat.toDigits_of_base_le (by decide) hlong
      rw [hsplit, List.head?_append_of_ne_nil _ (natural_ne_nil _)] at h
      have hzero := ih (value / 10) (by omega) h
      omega

theorem isDecimal_natural (value : Nat) : IsDecimal value (natural value) where
  toIsNumeral := isNumeral_zeroPadded 0 value
  eq_of_head? := by
    intro h
    rw [eq_zero_of_head?_natural h]
    rfl

theorem IsDecimal.eq_natural (h : IsDecimal value digits) : digits = natural value := by
  obtain ⟨c, rest, rfl⟩ := List.exists_cons_of_ne_nil h.ne_nil
  have hvalue : Nat.ofDigitChars 10 rest (digitValue c) = value := by
    rw [← h.value_eq, Nat.ofDigitChars_cons, Nat.mul_zero, Nat.zero_add, digitValue]
  by_cases hzero : c = '0'
  · obtain ⟨rfl, rfl⟩ := List.cons.inj (h.eq_of_head? (by rw [hzero]; rfl))
    rw [← hvalue]
    rfl
  · have hc := natural_digitValue (h.isDigit c (by simp))
    have hpos : 0 < digitValue c := by
      refine Nat.pos_of_ne_zero fun hnone => hzero ?_
      rw [hnone] at hc
      exact (List.singleton_inj.mp hc).symm
    rw [← hvalue, ← natural_append hpos fun d hd => h.isDigit d (by simp [hd]), hc,
      List.singleton_append]

-- Every number has one way to be written without leading zeros.
theorem isDecimal_iff : IsDecimal value digits ↔ digits = natural value :=
  ⟨IsDecimal.eq_natural, fun h => h ▸ isDecimal_natural value⟩

end Decimal

end Acrostic.Text
