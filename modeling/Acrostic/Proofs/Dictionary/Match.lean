import Acrostic.Dictionary
import Mathlib.Tactic.SplitIfs

namespace Acrostic.Dictionary

open Unicode (lowercase)

section Match

variable {dictionary : Dictionary} {text : List Char} {entry : Entry} {stem : List Char}

-- A stem of the dictionary is at the front of the text.
def Covers (dictionary : Dictionary) (text : List Char) : Prop :=
  ∃ entry ∈ dictionary.entries, ∃ stem ∈ entry.stems, stem <+: text

instance (dictionary : Dictionary) (text : List Char) : Decidable (dictionary.Covers text) :=
  inferInstanceAs (Decidable (∃ entry ∈ dictionary.entries, ∃ stem ∈ entry.stems, stem <+: text))

-- The entry is the first one with a stem at the front of the text, and the stem is its first one
-- there. Longer stems further on do not count.
structure IsFirstMatch (dictionary : Dictionary) (text : List Char) (entry : Entry)
    (stem : List Char) : Prop where
  entry_first : ∃ before after, dictionary.entries = before ++ entry :: after ∧
    ¬ Covers ⟨before⟩ text
  stem_first : ∃ before after, entry.stems = before ++ stem :: after ∧
    ∀ other ∈ before, ¬ other <+: text
  isPrefix : stem <+: text

theorem Entry.match?_eq_some_iff :
    entry.match? text = some stem ↔
      (∃ before after, entry.stems = before ++ stem :: after ∧
        ∀ other ∈ before, ¬ other <+: text) ∧ stem <+: text := by
  rw [match?, List.find?_eq_some_iff_append, and_comm]
  simp [← List.isPrefixOf_iff_prefix]

theorem Entry.match?_eq_none_iff :
    entry.match? text = none ↔ ∀ stem ∈ entry.stems, ¬ stem <+: text := by
  rw [match?, List.find?_eq_none]
  simp

theorem match?_eq_none_iff : dictionary.match? text = none ↔ ¬ dictionary.Covers text := by
  simp [match?, Covers, List.findSome?_eq_none_iff, Entry.match?_eq_none_iff]

theorem match?_eq_some_iff {symbol : List Char} :
    dictionary.match? text = some (symbol, stem) ↔
      ∃ entry, entry.symbol = symbol ∧ dictionary.IsFirstMatch text entry stem := by
  have hbefore (before : List Entry) :
      (∀ entry ∈ before, (entry.match? text).map (fun stem => (entry.symbol, stem)) = none) ↔
        ¬ Covers ⟨before⟩ text := by
    rw [← match?_eq_none_iff, match?, List.findSome?_eq_none_iff]
  rw [match?, List.findSome?_eq_some_iff]
  constructor
  · rintro ⟨before, entry, after, hentries, hmatch, hnone⟩
    obtain ⟨found, hfound, heq⟩ := Option.map_eq_some_iff.mp hmatch
    obtain ⟨rfl, rfl⟩ := Prod.mk.inj heq
    obtain ⟨hfirst, hprefix⟩ := Entry.match?_eq_some_iff.mp hfound
    exact ⟨entry, rfl, ⟨before, after, hentries, (hbefore before).mp hnone⟩, hfirst, hprefix⟩
  · rintro ⟨entry, rfl, ⟨before, after, hentries, hnone⟩, hfirst, hprefix⟩
    refine ⟨before, entry, after, hentries, ?_, (hbefore before).mpr hnone⟩
    rw [Entry.match?_eq_some_iff.mpr ⟨hfirst, hprefix⟩, Option.map_some]

theorem IsFirstMatch.match?_eq (h : dictionary.IsFirstMatch text entry stem) :
    dictionary.match? text = some (entry.symbol, stem) :=
  match?_eq_some_iff.mpr ⟨entry, rfl, h⟩

theorem IsFirstMatch.entry_mem (h : dictionary.IsFirstMatch text entry stem) :
    entry ∈ dictionary.entries := by
  obtain ⟨before, after, hentries, -⟩ := h.entry_first
  simp [hentries]

theorem IsFirstMatch.stem_mem (h : dictionary.IsFirstMatch text entry stem) :
    stem ∈ entry.stems := by
  obtain ⟨before, after, hstems, -⟩ := h.stem_first
  simp [hstems]

theorem covers_iff :
    dictionary.Covers text ↔ ∃ entry stem, dictionary.IsFirstMatch text entry stem := by
  constructor
  · intro hcovers
    cases hmatch : dictionary.match? text with
    | none => exact absurd hcovers (match?_eq_none_iff.mp hmatch)
    | some found =>
      obtain ⟨entry, -, hfirst⟩ := match?_eq_some_iff.mp hmatch
      exact ⟨entry, found.2, hfirst⟩
  · rintro ⟨entry, stem, h⟩
    exact ⟨entry, h.entry_mem, stem, h.stem_mem, h.isPrefix⟩

theorem isSome_match?_iff : (dictionary.match? text).isSome = true ↔ dictionary.Covers text := by
  rw [Option.isSome_iff_ne_none, Ne, match?_eq_none_iff, Classical.not_not]

-- Entries that come later are looked at only when none of those in front has a match.
theorem match?_append (first second : Dictionary) (text : List Char) :
    (Dictionary.mk (first.entries ++ second.entries)).match? text =
      (first.match? text).or (second.match? text) :=
  List.findSome?_append

end Match

section Substitute

variable {dictionary : Dictionary} {token : Token} {entry : Entry} {stem : List Char}

theorem substitute_of_not_covers (h : ¬ dictionary.Covers (lowercase token)) :
    dictionary.substitute token = token := by
  rw [substitute, match?_eq_none_iff.mpr h]

-- As many characters go as the stem has, whatever they are.
theorem IsFirstMatch.substitute_eq (h : dictionary.IsFirstMatch (lowercase token) entry stem) :
    dictionary.substitute token = entry.symbol ++ token.drop stem.length := by
  rw [substitute, h.match?_eq]

theorem substitute_cases (dictionary : Dictionary) (token : Token) :
    (¬ dictionary.Covers (lowercase token) ∧ dictionary.substitute token = token) ∨
      ∃ entry stem, dictionary.IsFirstMatch (lowercase token) entry stem ∧
        dictionary.substitute token = entry.symbol ++ token.drop stem.length := by
  by_cases hcovers : dictionary.Covers (lowercase token)
  · obtain ⟨entry, stem, hfirst⟩ := covers_iff.mp hcovers
    exact .inr ⟨entry, stem, hfirst, hfirst.substitute_eq⟩
  · exact .inl ⟨hcovers, substitute_of_not_covers hcovers⟩

theorem substitute_append (first second : Dictionary) (token : Token) :
    (Dictionary.mk (first.entries ++ second.entries)).substitute token =
      if first.Covers (lowercase token) then first.substitute token
      else second.substitute token := by
  unfold substitute
  rw [match?_append]
  split_ifs with hcovers
  · obtain ⟨entry, stem, hfirst⟩ := covers_iff.mp hcovers
    rw [hfirst.match?_eq, Option.some_or]
  · rw [match?_eq_none_iff.mpr hcovers, Option.none_or]

-- Where case does not matter, it is kept in the rest of the token and nowhere else.
theorem exists_rest_of_lowercase_eq {other : Token} (hlower : lowercase other = lowercase token)
    (hcase : other.map Char.toLower = token.map Char.toLower) :
    ∃ kept rest others, dictionary.substitute token = kept ++ rest ∧ rest <:+ token ∧
      dictionary.substitute other = kept ++ others ∧ others <:+ other ∧
      others.map Char.toLower = rest.map Char.toLower := by
  obtain ⟨hnone, hsame⟩ | ⟨entry, stem, hfirst, hresult⟩ := dictionary.substitute_cases token
  · refine ⟨[], token, other, hsame, List.suffix_rfl, ?_, List.suffix_rfl, hcase⟩
    rw [← hlower] at hnone
    exact substitute_of_not_covers hnone
  · refine ⟨entry.symbol, token.drop stem.length, other.drop stem.length, hresult,
      List.drop_suffix _ _, ?_, List.drop_suffix _ _, ?_⟩
    · rw [← hlower] at hfirst
      exact hfirst.substitute_eq
    · rw [List.map_drop, List.map_drop, hcase]

end Substitute

end Acrostic.Dictionary
