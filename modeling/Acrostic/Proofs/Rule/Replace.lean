import Acrostic.Proofs.Dictionary.Match
import Acrostic.Proofs.Rule.Steps
import Acrostic.Proofs.Unicode.Casing

namespace Acrostic.Rule

open Unicode (lowercase lowercase_ascii)

variable {config : Config} {given : Option Dictionary} {dictionary : Dictionary} {rule : Rule}
  {phrase : List Char} {token : Token}

-- A rule replaces by the dictionary that it has been given, and by no other.
theorem stems_of_replace_mem (hrule : ofConfig config given = .ok rule)
    (hstage : .replace (some dictionary) ∈ rule.stages) :
    config.stems given = some dictionary := by
  obtain ⟨-, hstep, rfl⟩ := ofConfig_eq_ok_iff.mp hrule
  simpa [Config.stages, eq_comm] using hstage

-- The stems are replaced first of all, in the tokens of the phrase.
theorem exists_trace_of_stems (hrule : ofConfig config given = .ok rule)
    (hstems : config.stems given = some dictionary) (phrase : List Char) :
    ∃ later, rule.trace phrase = (.tokenize, rule.tokens phrase) ::
      (.replace, (rule.tokens phrase).map dictionary.substitute) :: later := by
  have hreplace : config.replace given = dictionary.substitute := by
    funext token
    rw [Config.replace, hstems]
    rfl
  have htrace := trace_eq hrule phrase
  have hconfig : rule.config = config := (ofConfig_eq_ok hrule).1
  rw [hreplace, ← hconfig] at htrace
  exact ⟨_, htrace⟩

theorem toNat_lt_of_mem_tokens (htoken : token ∈ rule.tokens phrase) :
    ∀ c ∈ token, c.toNat < 0x80 := by
  intro c hc
  have hvisible := isVisible_of_mem_tokens (List.mem_flatten.mpr ⟨token, htoken, hc⟩)
  exact Charset.toNat_lt_of_holds (Charset.isVisible_iff.mp hvisible).1

-- In the tokens of a rule a stem has as many characters as it has in lowercase, and what is found
-- does not depend on the case of the token.
theorem substitute_of_mem_tokens (hrule : ofConfig config given = .ok rule)
    (hstage : .replace (some dictionary) ∈ rule.stages) (phrase : List Char) :
    (∃ later, rule.trace phrase = (.tokenize, rule.tokens phrase) ::
        (.replace, (rule.tokens phrase).map dictionary.substitute) :: later) ∧
      ∀ token ∈ rule.tokens phrase,
        let lower := token.map Char.toLower
        (∀ c ∈ token, c.toNat < 0x80) ∧
          ((¬ dictionary.Covers lower ∧ dictionary.substitute token = token) ∨
            ∃ entry stem, dictionary.IsFirstMatch lower entry stem ∧ stem.length ≤ token.length ∧
              dictionary.substitute token = entry.symbol ++ token.drop stem.length) ∧
          (∀ other : Token, other.map Char.toLower = lower →
            (∀ entry stem, dictionary.IsFirstMatch (lowercase other) entry stem ↔
              dictionary.IsFirstMatch (lowercase token) entry stem) ∧
            ∃ kept rest others, dictionary.substitute token = kept ++ rest ∧ rest <:+ token ∧
              dictionary.substitute other = kept ++ others ∧ others <:+ other ∧
              others.map Char.toLower = rest.map Char.toLower) ∧
          ∀ first second : Dictionary,
            (Dictionary.mk (first.entries ++ second.entries)).substitute token =
              if first.Covers lower then first.substitute token else second.substitute token := by
  refine ⟨exists_trace_of_stems hrule (stems_of_replace_mem hrule hstage) phrase, ?_⟩
  intro token htoken lower
  have hascii := toNat_lt_of_mem_tokens htoken
  have hlower : lowercase token = lower := lowercase_ascii hascii
  refine ⟨hascii, ?_, fun other hcase => ?_, fun first second => ?_⟩
  · rw [← hlower]
    obtain hnone | ⟨entry, stem, hfirst, hresult⟩ := dictionary.substitute_cases token
    · exact .inl hnone
    · have hlength : stem.length ≤ token.length := by
        simpa [hlower, lower] using hfirst.isPrefix.length_le
      exact .inr ⟨entry, stem, hfirst, hlength, hresult⟩
  · have hsame := Unicode.lowercase_eq_of_map_toLower_eq hascii hcase
    rw [hsame]
    exact ⟨fun _ _ => Iff.rfl, Dictionary.exists_rest_of_lowercase_eq hsame hcase⟩
  · rw [← hlower]
    exact Dictionary.substitute_append first second token

-- The entry has the stem "four" in front of "for".
theorem substitute_of_mem_tokens_forever :
    ∃ rule, ofConfig ⟨.ascii, .wordPrefixes, 1, [0, 1], false⟩ (some .builtin) = .ok rule ∧
      Stage.replace (some .builtin) ∈ rule.stages ∧
      "Forever".toList ∈ rule.tokens "Forever Young".toList ∧
      (∀ c ∈ "Forever".toList, c.toNat < 0x80) ∧
      (∃ entry stem, Dictionary.builtin.IsFirstMatch "forever".toList entry stem ∧
        stem.length ≤ 7 ∧ Dictionary.builtin.substitute "Forever".toList =
          entry.symbol ++ "Forever".toList.drop stem.length) ∧
      ∃ kept rest others, Dictionary.builtin.substitute "Forever".toList = kept ++ rest ∧
        rest <:+ "Forever".toList ∧ Dictionary.builtin.substitute "FOREVER".toList = kept ++ others ∧
        others <:+ "FOREVER".toList ∧ others.map Char.toLower = rest.map Char.toLower := by
  have hrule : ofConfig ⟨.ascii, .wordPrefixes, 1, [0, 1], false⟩ (some .builtin) = .ok _ := rfl
  have hmem : "Forever".toList ∈ tokenize (Charset.ascii.normalize "Forever Young".toList) := by
    rw [Charset.normalize_eq_flatMap]
    decide +kernel
  obtain ⟨-, htokens⟩ := substitute_of_mem_tokens hrule List.mem_cons_self "Forever Young".toList
  obtain ⟨hascii, hfirst, hcase, -⟩ := htokens "Forever".toList hmem
  refine ⟨_, hrule, List.mem_cons_self, hmem, hascii, ?_, (hcase "FOREVER".toList (by decide)).2⟩
  cases hfirst with
  | inl hnone => exact absurd (by decide) hnone.1
  | inr hfound => exact hfound

end Acrostic.Rule
