import Acrostic.Proofs.Picker
import Acrostic.Proofs.Rule.Spacing
import Acrostic.Proofs.Rule.Steps
import Acrostic.Proofs.Token.Letters

namespace Acrostic.Rule

-- The letters of a word at the positions, those from the front counted from 0 and those from the
-- back from -1. A position that the word does not have names no letter, and a letter that is named
-- again is not taken again.
def lettersAt (positions : List Int) (word : List Char) : List Char :=
  let length : Int := word.length
  let present := positions.filter fun position => -length ≤ position ∧ position < length
  (present.map fun position => (position % length).toNat).eraseDups.filterMap (word[·]?)

theorem pick_eq_lettersAt (config : Config) (token : Token) :
    config.pick token = lettersAt config.positions token := by
  have hreach : Picker.reaches ⟨config.positions, false, false⟩ token.length =
      fun position => decide (-(token.length : Int) ≤ position ∧ position < token.length) := by
    funext position
    simp [Picker.reaches]
  rw [Config.pick, Picker.select_eq_picked, Picker.picked, Picker.named, hreach]
  rfl

-- In the alphabet of small letters the boundary rules find the words between blanks, and a rule
-- without replacement spells the letters of every so many of them.
theorem apply_lowercaseLetters (phrase : List Char) :
    let text := Charset.lowercaseLetters.normalize phrase
    tokenize text = letterRuns text ∧ letterRuns text = Text.words text ∧
      Text.words text = blankSplit text ∧
      ∀ (stride : Stride) (positions : List Int) (spaced : Bool) (dictionary : Option Dictionary),
        let config : Config := ⟨.lowercaseLetters, .none, stride.step, positions, spaced⟩
        let letters := (Stride.multiples stride.step (blankSplit text)).flatMap (lettersAt positions)
        ∃ rule, ofConfig config dictionary = .ok rule ∧
          rule.apply phrase = if spaced then letters.intersperse ' ' else letters := by
  intro text
  have hholds : ∀ c ∈ text, Charset.lowercaseLetters.holds c = true :=
    fun c hc => Charset.holds_of_mem_normalize hc
  have htokens : tokenize text = Text.words text := tokenize_eq_words (isSpaced_normalize _ _) hholds
  have hwords : Text.words text = blankSplit text := words_eq_blankSplit hholds
  have hruns : letterRuns text = Text.words text := (letterRuns_eq_blankSplit hholds).trans hwords.symm
  refine ⟨htokens.trans hruns.symm, hruns, hwords, fun stride positions spaced dictionary => ?_⟩
  intro config letters
  -- a dictionary is left aside, so that the rule is the one without any
  have hrule : ofConfig config dictionary = .ok ⟨config, config.stages none stride.step_pos⟩ :=
    ofConfig_eq_ok_iff.mpr ⟨by simp [config, Replacement.needsDictionary], stride.step_pos, rfl⟩
  have hbare : ofConfig config none = .ok ⟨config, config.stages none stride.step_pos⟩ :=
    ofConfig_eq_ok_iff.mpr ⟨by simp [config, Replacement.needsDictionary], stride.step_pos, rfl⟩
  have hletters := letters_eq_flatMap hbare phrase
  have hpick (token : Token) : config.pick (config.replace none token) = lettersAt positions token :=
    pick_eq_lettersAt config token
  simp only [hpick] at hletters
  refine ⟨_, hrule, ?_⟩
  rw [apply_eq_letters (by simp) hbare, hletters, show tokenize _ = _ from htokens.trans hwords]

end Acrostic.Rule
