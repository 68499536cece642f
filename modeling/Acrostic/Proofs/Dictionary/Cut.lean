import Acrostic.Proofs.Dictionary.Match
import Acrostic.Proofs.Unicode.Casing

namespace Acrostic.Dictionary

open Unicode

section Cut

variable {dictionary : Dictionary} {token : Token} {entry : Entry} {stem : List Char}

-- Nothing matches and the token is left as it is, or the symbol stands for just those characters
-- whose lowercase form is the stem, and the rest is kept.
def CutsExactly (dictionary : Dictionary) (token : Token) : Prop :=
  (¬ dictionary.Covers (lowercase token) ∧ dictionary.substitute token = token) ∨
    ∃ entry stem cut rest, dictionary.IsFirstMatch (lowercase token) entry stem ∧
      token = cut ++ rest ∧ dictionary.substitute token = entry.symbol ++ rest ∧
      lowercase cut = stem

theorem IsFirstMatch.cutsExactly_iff_take
    (h : dictionary.IsFirstMatch (lowercase token) entry stem) :
    dictionary.CutsExactly token ↔ lowercase (token.take stem.length) = stem := by
  constructor
  · rintro (⟨hnone, -⟩ | ⟨other, found, cut, rest, hother, htoken, hresult, hcut⟩)
    · exact absurd (covers_iff.mpr ⟨entry, stem, h⟩) hnone
    · have hsame := Option.some.inj (hother.match?_eq.symm.trans h.match?_eq)
      obtain ⟨hsymbol, rfl⟩ := Prod.mk.inj hsame
      have hrest : rest = token.drop found.length := by
        rw [hsymbol, h.substitute_eq] at hresult
        exact (List.append_cancel_left hresult).symm
      have htake : cut ++ rest = token.take found.length ++ rest := by
        rw [← htoken, hrest, List.take_append_drop]
      rw [← List.append_cancel_right htake, hcut]
  · intro hcut
    exact .inr ⟨entry, stem, _, _, h, (List.take_append_drop stem.length token).symm,
      h.substitute_eq, hcut⟩

-- The stem is at the front of the lowercase token. The characters that are cut off have it for
-- their lowercase form when there are as many of them and what follows does not change it.
theorem lowercase_take_eq_iff (h : stem <+: lowercase token) :
    lowercase (token.take stem.length) = stem ↔
      lowercase token = stem ∨ dottedCapitalI ∉ token.take stem.length ∧
        ¬ LosesFinalSigma (token.take stem.length) (token.drop stem.length) := by
  have hlong := h.length_le
  have hlength := length_lowercase (token.take stem.length)
  rw [length_lowercase] at hlong
  rw [List.length_take] at hlength
  rw [← lowercase_isPrefix_append_iff, List.take_append_drop, ← List.count_eq_zero]
  by_cases hshort : token.length < stem.length
  · have hwhole : token.take stem.length = token := List.take_of_length_le (by omega)
    rw [hwhole, or_iff_left_of_imp]
    rintro ⟨hdots, -⟩
    omega
  · constructor
    · intro hcut
      rw [hcut] at hlength ⊢
      exact .inr ⟨by omega, h⟩
    · rintro (hall | ⟨hdots, hprefix⟩)
      · have hlower := length_lowercase token
        rw [hall] at hlower
        rw [List.take_of_length_le (by omega), hall]
      · have heq : (lowercase (token.take stem.length)).length = stem.length := by omega
        have hstem := List.prefix_of_prefix_length_le hprefix h (Nat.le_of_eq heq)
        exact hstem.eq_of_length heq

-- What is cut off is counted in characters of the stem, not in those of the token. It is cut off
-- exactly unless one of these characters is two in lowercase, or a sigma among them is final only
-- without the rest.
theorem cutsExactly_iff (dictionary : Dictionary) (token : Token) :
    (∀ entry stem, dictionary.IsFirstMatch (lowercase token) entry stem →
        dictionary.substitute token = entry.symbol ++ token.drop stem.length) ∧
      (dictionary.CutsExactly token ↔
        ∀ entry stem, dictionary.IsFirstMatch (lowercase token) entry stem →
          lowercase token = stem ∨ dottedCapitalI ∉ token.take stem.length ∧
            ¬ LosesFinalSigma (token.take stem.length) (token.drop stem.length)) := by
  refine ⟨fun entry stem h => h.substitute_eq, ?_⟩
  constructor
  · intro hexact entry stem h
    exact (lowercase_take_eq_iff h.isPrefix).mp (h.cutsExactly_iff_take.mp hexact)
  · intro hall
    obtain hnone | ⟨entry, stem, h, -⟩ := dictionary.substitute_cases token
    · exact .inl hnone
    · exact h.cutsExactly_iff_take.mpr ((lowercase_take_eq_iff h.isPrefix).mpr (hall entry stem h))

-- The dotted capital I is two characters of the stem, so that one letter of the rest is lost.
theorem not_cutsExactly_dottedCapitalI :
    ¬ (Dictionary.mk [entryOfStrings "1" ["İs"]]).CutsExactly "İstanbul".toList ∧
      (Dictionary.mk [entryOfStrings "1" ["İs"]]).substitute "İstanbul".toList =
        "1anbul".toList := by
  have hmatch : (Dictionary.mk [entryOfStrings "1" ["İs"]]).match?
      (lowercase "İstanbul".toList) = some ("1".toList, lowercase "İs".toList) := by
    decide +kernel
  obtain ⟨entry, -, hfirst⟩ := match?_eq_some_iff.mp hmatch
  rw [hfirst.cutsExactly_iff_take]
  decide +kernel

end Cut

section Alone

-- The dictionary of one stem, in whatever case it is given
def single (symbol stem : List Char) : Dictionary :=
  ⟨[Entry.ofStems symbol [stem]]⟩

theorem covers_single_iff {symbol stem text : List Char} :
    (single symbol stem).Covers text ↔ lowercase stem <+: text := by
  simp [Covers, single, Entry.ofStems]

theorem isFirstMatch_single {symbol stem text : List Char} (h : lowercase stem <+: text) :
    (single symbol stem).IsFirstMatch text (Entry.ofStems symbol [stem]) (lowercase stem) where
  entry_first := ⟨[], [], rfl, by simp [Covers]⟩
  stem_first := ⟨[], [], rfl, by simp⟩
  isPrefix := h

-- A stem is found in front of whatever follows it, unless it ends in a final sigma and the word
-- goes on: it has been put into lowercase alone, and the token as a whole.
theorem match?_single_append_iff (symbol stem rest : List Char) :
    (((single symbol stem).match? (lowercase (stem ++ rest))).isSome = true ↔
        ¬ LosesFinalSigma stem rest) ∧
      (¬ LosesFinalSigma stem rest → (single symbol stem).substitute (stem ++ rest) =
        symbol ++ (stem ++ rest).drop (lowercase stem).length) ∧
      (LosesFinalSigma stem rest → (single symbol stem).substitute (stem ++ rest) = stem ++ rest) := by
  rw [← lowercase_isPrefix_append_iff]
  refine ⟨?_, fun hprefix => (isFirstMatch_single hprefix).substitute_eq, fun hlost => ?_⟩
  · rw [isSome_match?_iff, covers_single_iff]
  · apply substitute_of_not_covers
    rwa [covers_single_iff, lowercase_isPrefix_append_iff, not_not]

theorem match?_single_append_sigma :
    (single "@".toList "ΟΔΟΣ".toList).match? (lowercase ("ΟΔΟΣ".toList ++ "ΗΜΑΝΣΗ".toList)) = none ∧
      (single "@".toList "ΟΔΟΣ".toList).substitute ("ΟΔΟΣ".toList ++ "ΗΜΑΝΣΗ".toList) =
        "ΟΔΟΣΗΜΑΝΣΗ".toList := by
  decide +kernel

end Alone

end Acrostic.Dictionary
