import Acrostic.Proofs.Ordinal.Listing
import Acrostic.Proofs.Unicode.Alphabetic

namespace Acrostic.Ordinal

open Text (zeroPadded integerLimit IsSolid IsWhite)
open Unicode (isAlphabetic)

-- The ways to write a number: zeros in front, and two letters behind that need not fit it
inductive WritesNumber (value : Nat) : List Char → Prop where
  | digits (zeros : Nat) (first second : Char) (hfirst : isAlphabetic first = true)
      (hsecond : isAlphabetic second = true) :
      WritesNumber value (zeroPadded zeros value ++ [first, second])

-- The ways to write a position
inductive Writes : Int → List Char → Prop where
  | front (position : Nat) {text : List Char} (h : WritesNumber (position + 1) text) :
      Writes position text
  | back (count : Nat) {text : List Char} (h : WritesNumber (count + 1) text) :
      Writes (-(count + 1)) (text ++ backKeyword)
  | last : Writes (-1) backKeyword

-- The ways to write a step
inductive WritesSelection : Nat → List Char → Prop where
  | every : WritesSelection 1 selectionKeyword
  | counted {count : Nat} {text : List Char} (before after : List Char) (hbefore : IsWhite before)
      (h : WritesNumber count text) (hafter : IsWhite after) :
      WritesSelection count (selectionKeyword ++ (before ++ text ++ after))

-- An entry of a list: a position with white space around it
inductive WritesEntry (position : Int) : List Char → Prop where
  | padded {text : List Char} (before after : List Char) (hbefore : IsWhite before)
      (h : Writes position text) (hafter : IsWhite after) :
      WritesEntry position (before ++ text ++ after)

-- The ways to write positions in a row. Behind the last one there may be further plus signs with
-- nothing but white space between them.
inductive WritesList (positions : List Int) : List Char → Prop where
  | joined (entries blanks : List (List Char))
      (hentries : List.Forall₂ WritesEntry positions entries)
      (hblanks : ∀ blank ∈ blanks, IsWhite blank) :
      WritesList positions (['+'].intercalate (entries ++ blanks))

section Existence

theorem exists_writesNumber (value : Nat) : ∃ text, WritesNumber value text :=
  ⟨_, .digits 0 't' 'h' rfl rfl⟩

theorem exists_writes (position : Int) : ∃ text, Writes position text := by
  cases position with
  | ofNat position =>
    obtain ⟨text, htext⟩ := exists_writesNumber (position + 1)
    exact ⟨text, .front position htext⟩
  | negSucc count =>
    obtain ⟨text, htext⟩ := exists_writesNumber (count + 1)
    exact ⟨text ++ backKeyword, .back count htext⟩

theorem exists_writesSelection (count : Nat) : ∃ text, WritesSelection count text := by
  obtain ⟨text, htext⟩ := exists_writesNumber count
  exact ⟨_, .counted [] [] (by decide) htext (by decide)⟩

theorem exists_writesList (positions : List Int) : ∃ text, WritesList positions text := by
  have hentries : ∃ entries, List.Forall₂ WritesEntry positions entries := by
    induction positions with
    | nil => exact ⟨[], .nil⟩
    | cons position positions ih =>
      obtain ⟨text, htext⟩ := exists_writes position
      obtain ⟨entries, hrest⟩ := ih
      exact ⟨_, .cons (.padded [] [] (by decide) htext (by decide)) hrest⟩
  obtain ⟨entries, hentries⟩ := hentries
  exact ⟨_, .joined entries [] hentries (by simp)⟩

end Existence

section Characters

-- What stands in a written position
def IsMark (c : Char) : Prop :=
  c.isDigit = true ∨ isAlphabetic c = true

theorem IsMark.isWhiteSpace_eq_false {c : Char} (h : IsMark c) : Unicode.isWhiteSpace c = false := by
  cases h with
  | inl hdigit => exact Unicode.isWhiteSpace_of_isDigit hdigit
  | inr hletter => exact Unicode.isWhiteSpace_of_isAlphabetic hletter

theorem not_isMark_plus : ¬ IsMark '+' := by
  unfold IsMark
  decide

theorem WritesNumber.isMark {value : Nat} {text : List Char} (h : WritesNumber value text) :
    ∀ c ∈ text, IsMark c := by
  intro c hc
  cases h with
  | digits zeros first second hfirst hsecond =>
    simp only [List.mem_append, List.mem_cons, List.not_mem_nil, or_false] at hc
    obtain hdigit | rfl | rfl := hc
    · exact .inl (Text.isDigit_of_mem_zeroPadded hdigit)
    · exact .inr hfirst
    · exact .inr hsecond

theorem isMark_backKeyword : ∀ c ∈ backKeyword, IsMark c := by
  have hletters : backKeyword.all isAlphabetic = true := rfl
  exact fun c hc => .inr (List.all_eq_true.mp hletters c hc)

theorem Writes.isMark {position : Int} {text : List Char} (h : Writes position text) :
    ∀ c ∈ text, IsMark c := by
  cases h with
  | front position hnumber => exact hnumber.isMark
  | back count hnumber =>
    intro c hc
    cases List.mem_append.mp hc with
    | inl hbody => exact hnumber.isMark c hbody
    | inr hkeyword => exact isMark_backKeyword c hkeyword
  | last => exact isMark_backKeyword

theorem isSolid_of_isMark {text : List Char} (h : ∀ c ∈ text, IsMark c) : IsSolid text :=
  fun c hc => (h c hc).isWhiteSpace_eq_false

theorem WritesNumber.ne_nil {value : Nat} {text : List Char} (h : WritesNumber value text) :
    text ≠ [] := by
  cases h
  simp

theorem Writes.ne_nil {position : Int} {text : List Char} (h : Writes position text) :
    text ≠ [] := by
  cases h with
  | front position hnumber => exact hnumber.ne_nil
  | back count hnumber => simp [hnumber.ne_nil]
  | last => decide

end Characters

section Position

variable {value : Nat} {body : List Char}

-- Zeros in front are among the digits, and there is no sign.
theorem WritesNumber.exists_spelling (h : WritesNumber value body) (hpos : 0 < value)
    (hlimit : value < integerLimit) (fromBack : Bool) :
    ∃ spelling : Spelling,
      spelling.fromBack = fromBack ∧ spelling.body = body ∧ spelling.value = value := by
  cases h with
  | digits zeros first second hfirst hsecond =>
    exact ⟨⟨false, zeroPadded zeros value, value, first, second, fromBack,
      Text.isNumeral_zeroPadded zeros value, hpos, hlimit, hfirst, hsecond⟩, rfl, rfl, rfl⟩

theorem parse_front (h : WritesNumber value body) (hpos : 0 < value)
    (hlimit : value < integerLimit) : parse body = .ok (value - 1) := by
  obtain ⟨spelling, hback, rfl, rfl⟩ := h.exists_spelling hpos hlimit false
  have hparse := spelling.parse_text
  simpa [Spelling.text, Spelling.position, hback] using hparse

theorem parse_back (h : WritesNumber value body) (hpos : 0 < value)
    (hlimit : value < integerLimit) : parse (body ++ backKeyword) = .ok (-value) := by
  obtain ⟨spelling, hback, rfl, rfl⟩ := h.exists_spelling hpos hlimit true
  have hparse := spelling.parse_text
  simpa [Spelling.text, Spelling.position, hback] using hparse

theorem parse_of_writes {position : Int} {text : List Char} (h : Writes position text)
    (hrange : InRange position) : parse text = .ok position := by
  obtain ⟨hlow, hhigh⟩ := hrange
  cases h with
  | front position hnumber =>
    rw [parse_front hnumber (by omega) (by omega)]
    simp
  | back count hnumber =>
    rw [parse_back hnumber (by omega) (by omega)]
    simp
  | last => rfl

end Position

section Selection

-- The step is one more than the position of the ordinal behind the keyword.
theorem parseSelection_of_writes {count : Nat} {text : List Char} (h : WritesSelection count text)
    (hpos : 0 < count) (hlimit : count < integerLimit) : parseSelection text = .ok count := by
  cases h with
  | every => rfl
  | @counted _ body before after hbefore hnumber hafter =>
    have htrim : Text.trim (before ++ body ++ after) = body :=
      Text.trim_padded hbefore hnumber.ne_nil (isSolid_of_isMark hnumber.isMark) hafter
    obtain ⟨index, rfl⟩ := Nat.exists_eq_add_one.mpr hpos
    have hread : parse (Text.trim (before ++ body ++ after)) = .ok (index : Int) := by
      rw [htrim, parse_front hnumber hpos hlimit]
      simp
    exact (Selects.counted hread).parseSelection_eq

end Selection

section Lists

variable {positions : List Int} {text : List Char}

theorem isEntry_of_writes {position : Int} {entry : List Char} (h : WritesEntry position entry)
    (hrange : InRange position) : IsEntry entry position := by
  cases h with
  | padded before after hbefore hwrites hafter =>
    constructor
    · simp only [List.mem_append, not_or]
      exact ⟨⟨notMem_plus_of_isWhite hbefore,
        fun hplus => not_isMark_plus (hwrites.isMark '+' hplus)⟩, notMem_plus_of_isWhite hafter⟩
    · rw [Text.trim_padded hbefore hwrites.ne_nil (isSolid_of_isMark hwrites.isMark) hafter]
      exact parse_of_writes hwrites hrange

theorem isEntries_of_writes {entries : List (List Char)}
    (h : List.Forall₂ WritesEntry positions entries)
    (hrange : ∀ position ∈ positions, InRange position) :
    List.Forall₂ IsEntry entries positions := by
  induction h with
  | nil => exact .nil
  | @cons position entry positions entries hwrites _ ih =>
    exact .cons (isEntry_of_writes hwrites (hrange position (by simp)))
      (ih fun other hother => hrange other (by simp [hother]))

theorem parseList_of_writes (h : WritesList positions text) (hsome : positions ≠ [])
    (hrange : ∀ position ∈ positions, InRange position) : parseList text = .ok positions := by
  cases h with
  | joined entries blanks hentries hblanks =>
    have hfilled : entries ≠ [] := by
      rintro rfl
      cases hentries
      contradiction
    exact (Lists.joined entries blanks hfilled (isEntries_of_writes hentries hrange)
      hblanks).parseList_eq

end Lists

end Acrostic.Ordinal
