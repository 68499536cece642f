import Acrostic.Ordinal
import Acrostic.Proofs.Attempt
import Acrostic.Proofs.Text.Decimal
import Acrostic.Text.Encoded
import Mathlib.Tactic.SplitIfs

namespace Acrostic.Ordinal

open Text (FitsInteger IsNumeral integerLimit plusSign)
open Unicode (isAlphabetic)

-- The parts of a position that is written with a number: the sign that may be there, the digits,
-- two letters, and whether the keyword stands behind them
@[ext]
structure Spelling where
  signed : Bool
  digits : List Char
  value : Nat
  first : Char
  second : Char
  fromBack : Bool
  numeral : IsNumeral value digits
  value_pos : 0 < value
  value_lt : value < integerLimit
  isAlphabetic_first : isAlphabetic first = true
  isAlphabetic_second : isAlphabetic second = true

-- What a signed 64-bit number can say of a position, counted from 1 in both directions
def InRange (position : Int) : Prop :=
  -(integerLimit : Int) < position ∧ position + 1 < integerLimit

instance : DecidablePred InRange := fun position =>
  inferInstanceAs (Decidable (-(integerLimit : Int) < position ∧ position + 1 < integerLimit))

namespace Spelling

-- Everything but the keyword
def body (spelling : Spelling) : List Char :=
  plusSign spelling.signed ++ spelling.digits ++ [spelling.first, spelling.second]

def text (spelling : Spelling) : List Char :=
  spelling.body ++ if spelling.fromBack then backKeyword else []

def position (spelling : Spelling) : Int :=
  if spelling.fromBack then -(spelling.value : Int) else spelling.value - 1

-- The number without anything that is not needed
def ofValue (value : Nat) (hpos : 0 < value) (hlimit : value < integerLimit) (fromBack : Bool) :
    Spelling where
  signed := false
  digits := Text.natural value
  value := value
  first := 't'
  second := 'h'
  fromBack := fromBack
  numeral := Text.isNumeral_zeroPadded 0 value
  value_pos := hpos
  value_lt := hlimit
  isAlphabetic_first := rfl
  isAlphabetic_second := rfl

end Spelling

section Number

variable {body text : List Char} {value : Int}

theorem number_body (spelling : Spelling) (text : List Char) :
    number text spelling.body = .ok spelling.value := by
  let front := plusSign spelling.signed ++ spelling.digits
  have hbody : spelling.body = front ++ [spelling.first, spelling.second] := rfl
  have hlength : spelling.body.length - 2 = front.length := by simp [hbody]
  have hsome : 0 < spelling.digits.length := List.length_pos_of_ne_nil spelling.numeral.ne_nil
  have hletters : ¬ (spelling.body.length < 3 ||
      !(([spelling.first, spelling.second] : List Char).all isAlphabetic)) = true := by
    simp [hbody, front, spelling.isAlphabetic_first, spelling.isAlphabetic_second]
    omega
  have hread : Text.readInteger? front = some (spelling.value : Int) :=
    (Text.readInteger?_eq_some_iff spelling.value_pos).mpr
      ⟨spelling.value_lt, spelling.signed, spelling.digits, rfl, spelling.numeral⟩
  have hpos := spelling.value_pos
  unfold number
  rw [hlength, hbody, List.take_left, List.drop_left, ← hbody, if_neg hletters, hread]
  exact if_neg (by omega)

-- Nothing else is read as a number.
theorem exists_spelling_of_number (h : number text body = .ok value) (fromBack : Bool) :
    ∃ spelling : Spelling,
      spelling.fromBack = fromBack ∧ spelling.body = body ∧ (spelling.value : Int) = value := by
  simp only [number] at h
  split_ifs at h with hshort
  rw [Bool.or_eq_true, not_or, decide_eq_true_iff, Bool.not_eq_true'] at hshort
  obtain ⟨hlength, hletters⟩ := hshort
  have hsplit := List.take_append_drop (body.length - 2) body
  obtain ⟨first, second, hsuffix⟩ : ∃ first second, body.drop (body.length - 2) = [first, second] :=
    List.length_eq_two.mp (by rw [List.length_drop]; omega)
  rw [hsuffix] at hsplit hletters
  simp only [List.all_cons, List.all_nil, Bool.and_true, Bool.not_eq_false, Bool.and_eq_true]
    at hletters
  cases hread : Text.readInteger? (body.take (body.length - 2)) with
  | none => simp [hread] at h
  | some found =>
    simp only [hread] at h
    split_ifs at h with hpos
    obtain rfl : found = value := Except.ok.inj h
    obtain ⟨count, rfl⟩ := Int.eq_ofNat_of_zero_le (show 0 ≤ found by omega)
    obtain ⟨hlimit, signed, digits, hdigits, hnumeral⟩ :=
      (Text.readInteger?_eq_some_iff (by omega)).mp hread
    rw [hdigits] at hsplit
    exact ⟨⟨signed, digits, count, first, second, fromBack, hnumeral, by omega, hlimit, hletters.1,
      hletters.2⟩, rfl, hsplit, rfl⟩

-- What is wrong with a text quotes the text.
theorem number_eq_error {error : Rule.Error} (h : number text body = .error error) :
    error = .missingSuffix text ∨ error = .invalidNumber text ∨
      error = .nonPositiveNumber text := by
  simp only [number] at h
  split_ifs at h with hshort
  · exact .inl (Except.error.inj h).symm
  · cases hread : Text.readInteger? (body.take (body.length - 2)) with
    | none =>
      simp only [hread] at h
      exact .inr (.inl (Except.error.inj h).symm)
    | some found =>
      simp only [hread] at h
      split_ifs at h with hpos
      exact .inr (.inr (Except.error.inj h).symm)

end Number

section Parse

variable {text : List Char} {position : Int}

-- A letter of the keyword would have to be a sign or a digit.
theorem Spelling.not_isSuffixOf_body (spelling : Spelling) :
    backKeyword.isSuffixOf spelling.body = false := by
  rw [Bool.eq_false_iff]
  intro hsuffix
  obtain ⟨before, hbefore⟩ := List.isSuffixOf_iff_suffix.mp hsuffix
  have hsplit : (before ++ ['l', 'a']) ++ ['s', 't'] =
      (plusSign spelling.signed ++ spelling.digits) ++ [spelling.first, spelling.second] := by
    rw [List.append_assoc]
    exact hbefore
  have hfront := (List.append_inj' hsplit rfl).1
  have hletter : 'a' ∈ plusSign spelling.signed ++ spelling.digits := by simp [← hfront]
  cases List.mem_append.mp hletter with
  | inl hsign => cases hsigned : spelling.signed <;> simp [hsigned, plusSign] at hsign
  | inr hdigit => exact absurd (spelling.numeral.isDigit 'a' hdigit) (by decide)

theorem Spelling.isSuffixOf_text (spelling : Spelling) :
    backKeyword.isSuffixOf spelling.text = spelling.fromBack := by
  unfold Spelling.text
  cases spelling.fromBack with
  | false => simpa using spelling.not_isSuffixOf_body
  | true => exact List.isSuffixOf_iff_suffix.mpr (List.suffix_append spelling.body backKeyword)

theorem Spelling.text_ne_backKeyword (spelling : Spelling) : spelling.text ≠ backKeyword := by
  unfold Spelling.text
  split_ifs with hback
  · rw [Ne, List.append_left_eq_self]
    simp [Spelling.body]
  · rw [List.append_nil]
    intro hkeyword
    exact absurd spelling.not_isSuffixOf_body (by rw [hkeyword]; decide)

theorem Spelling.parse_text (spelling : Spelling) :
    parse spelling.text = .ok spelling.position := by
  have hnumber := number_body spelling spelling.text
  rw [parse, if_neg spelling.text_ne_backKeyword, spelling.isSuffixOf_text]
  cases hback : spelling.fromBack with
  | false =>
    have hbody : spelling.body = spelling.text := by simp [Spelling.text, hback]
    rw [hbody] at hnumber
    rw [if_neg Bool.false_ne_true, hnumber]
    simp [Spelling.position, hback, Except.map]
  | true =>
    have hbody :
        spelling.text.take (spelling.text.length - backKeyword.length) = spelling.body := by
      simp [Spelling.text, hback]
    rw [if_pos rfl, hbody, hnumber]
    simp [Spelling.position, hback, Except.map]

theorem exists_spelling_of_parse (h : parse text = .ok position) (hkeyword : text ≠ backKeyword) :
    ∃ spelling : Spelling, spelling.text = text ∧ spelling.position = position := by
  rw [parse, if_neg hkeyword] at h
  split_ifs at h with hsuffix
  · obtain ⟨body, rfl⟩ := List.isSuffixOf_iff_suffix.mp hsuffix
    rw [List.length_append, Nat.add_sub_cancel, List.take_left] at h
    obtain ⟨value, hnumber, rfl⟩ := Attempt.map_eq_ok_iff.mp h
    obtain ⟨spelling, hback, hbody, hvalue⟩ := exists_spelling_of_number hnumber true
    refine ⟨spelling, ?_, ?_⟩
    · simp [Spelling.text, hback, hbody]
    · simp [Spelling.position, hback, hvalue]
  · obtain ⟨value, hnumber, rfl⟩ := Attempt.map_eq_ok_iff.mp h
    obtain ⟨spelling, hback, hbody, hvalue⟩ := exists_spelling_of_number hnumber false
    refine ⟨spelling, ?_, ?_⟩
    · simp [Spelling.text, hback, hbody]
    · simp [Spelling.position, hback, hvalue]

theorem parse_eq_error {error : Rule.Error} (h : parse text = .error error) :
    error = .missingSuffix text ∨ error = .invalidNumber text ∨
      error = .nonPositiveNumber text := by
  unfold parse at h
  split_ifs at h with hkeyword hsuffix
  · exact number_eq_error (Attempt.map_eq_error_iff.mp h)
  · exact number_eq_error (Attempt.map_eq_error_iff.mp h)

theorem kind_of_parse {error : Rule.Error} (h : parse text = .error error) :
    error.kind = .validation := by
  obtain rfl | rfl | rfl := parse_eq_error h <;> rfl

end Parse

section Spelled

theorem Spelling.inRange_position (spelling : Spelling) : InRange spelling.position := by
  have hpos := spelling.value_pos
  have hlimit := spelling.value_lt
  unfold Spelling.position InRange
  split_ifs <;> omega

theorem inRange_of_parse {text : List Char} {position : Int} (h : parse text = .ok position) :
    InRange position := by
  by_cases hkeyword : text = backKeyword
  · rw [hkeyword] at h
    obtain rfl : -1 = position := Except.ok.inj h
    decide
  · obtain ⟨spelling, -, rfl⟩ := exists_spelling_of_parse h hkeyword
    exact spelling.inRange_position

theorem exists_spelling_of_inRange {position : Int} (h : InRange position) :
    ∃ spelling : Spelling, spelling.position = position := by
  obtain ⟨hlow, hhigh⟩ := h
  cases position with
  | ofNat front =>
    have hlimit : (front : Int) + 1 < integerLimit := hhigh
    refine ⟨.ofValue (front + 1) (by omega) (by omega) false, ?_⟩
    simp [Spelling.position, Spelling.ofValue]
  | negSucc back =>
    refine ⟨.ofValue (back + 1) (by omega) (by omega) true, ?_⟩
    simp [Spelling.position, Spelling.ofValue]
    omega

-- A text has one way to be taken apart. The keyword stands at its end or does not, the two letters
-- are in front of it, and no digit is a sign.
theorem Spelling.eq_of_text_eq {spelling other : Spelling} (h : spelling.text = other.text) :
    spelling = other := by
  have hback : spelling.fromBack = other.fromBack := by
    rw [← spelling.isSuffixOf_text, ← other.isSuffixOf_text, h]
  have hbody : spelling.body = other.body := by
    unfold Spelling.text at h
    rw [hback] at h
    exact List.append_cancel_right h
  obtain ⟨hfront, hletters⟩ := List.append_inj' hbody rfl
  obtain ⟨hfirst, hsecond⟩ : spelling.first = other.first ∧ spelling.second = other.second := by
    simpa using hletters
  obtain ⟨hsigned, hdigits⟩ := spelling.numeral.eq_of_plusSign_append other.numeral hfront
  have hvalue : spelling.value = other.value := by
    rw [← spelling.numeral.value_eq, ← other.numeral.value_eq, hdigits]
  exact Spelling.ext hsigned hdigits hvalue hfirst hsecond hback

-- Positions are read from the keyword and from numbers with two letters, and from nothing else.
-- There is one way to take a text apart, and where the keyword is cut off, the bytes in front of it
-- are those of whole characters. The number and the positions it can stand for are 64-bit numbers,
-- and those that can be read are all but the two at the ends of their range.
theorem parse_eq_ok_iff_spelled :
    (∀ text position, parse text = .ok position ↔
        text = backKeyword ∧ position = -1 ∨
          ∃ spelling : Spelling, spelling.text = text ∧ spelling.position = position) ∧
      (∀ text error, parse text = .error error → error.kind = .validation) ∧
      (∀ spelling other : Spelling, spelling.text = other.text → spelling = other) ∧
      (∀ spelling : Spelling, spelling.text ≠ backKeyword) ∧
      (∀ text bytes, Text.encode text = bytes ++ Text.encode backKeyword →
        ∃ body, text = body ++ backKeyword ∧ bytes = Text.encode body) ∧
      (∀ text body value, number text body = .ok value →
        FitsInteger value ∧ FitsInteger (-value) ∧ FitsInteger (value - 1)) ∧
      ∀ position, (∃ text, parse text = .ok position) ↔ InRange position := by
  refine ⟨fun text position => ?_, fun text error => kind_of_parse,
    fun _ _ => Spelling.eq_of_text_eq, Spelling.text_ne_backKeyword,
    fun _ _ => Text.exists_of_encode_eq_append, fun text body value hnumber => ?_,
    fun position => ?_⟩
  · constructor
    · intro h
      by_cases hkeyword : text = backKeyword
      · rw [hkeyword] at h
        exact .inl ⟨hkeyword, (Except.ok.inj h).symm⟩
      · exact .inr (exists_spelling_of_parse h hkeyword)
    · rintro (⟨rfl, rfl⟩ | ⟨spelling, rfl, rfl⟩)
      · rfl
      · exact spelling.parse_text
  · obtain ⟨spelling, -, -, rfl⟩ := exists_spelling_of_number hnumber false
    have hpos := spelling.value_pos
    have hlimit := spelling.value_lt
    unfold FitsInteger
    omega
  · constructor
    · rintro ⟨text, h⟩
      exact inRange_of_parse h
    · intro hrange
      obtain ⟨spelling, rfl⟩ := exists_spelling_of_inRange hrange
      exact ⟨spelling.text, spelling.parse_text⟩

-- Plus sign, zeros in front, letters of more than one byte and the keyword
example : parse "+007ÖÄlast".toList = .ok (-7) := by
  decide +kernel

end Spelled

end Acrostic.Ordinal
