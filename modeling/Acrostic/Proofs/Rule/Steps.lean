import Acrostic.Proofs.Rule.Letters
import Acrostic.Proofs.Stride

namespace Acrostic.Rule

section Stages

-- What replaces a token in a rule of these settings
def Config.replace (config : Config) (dictionary : Option Dictionary) (token : Token) : Token :=
  ((config.stems dictionary).map (·.substitute token)).getD token

-- The characters that a rule of these settings takes from a token
def Config.pick (config : Config) (token : Token) : List Char :=
  Picker.select ⟨config.positions, false, false⟩ token

theorem Stage.apply_replace (config : Config) (dictionary : Option Dictionary)
    (tokens : List Token) :
    (Stage.replace (config.stems dictionary)).apply tokens =
      tokens.map (config.replace dictionary) := by
  unfold Config.replace
  cases config.stems dictionary with
  | none => exact (List.map_id tokens).symm
  | some stems => rfl

-- The words that are not kept need not be replaced.
theorem Stage.apply_selectTokens_map (stride : Stride) (replace : Token → Token)
    (tokens : List Token) :
    (Stage.selectTokens stride).apply (tokens.map replace) =
      (Stride.multiples stride.step tokens).map replace := by
  rw [Stage.apply, Stride.select_eq_multiples, Stride.multiples_map]

end Stages

section Trace

-- What is looked at last is what the stages give together.
theorem Stage.getLast?_trace (step : Step) (tokens : List Token) (stages : List Stage) :
    ((step, tokens) :: Stage.trace tokens stages).getLast?.map (·.2) =
      some (stages.foldl (fun tokens stage => stage.apply tokens) tokens) := by
  induction stages generalizing step tokens with
  | nil => rfl
  | cons stage stages ih =>
    rw [Stage.trace, List.getLast?_cons_cons, List.foldl_cons]
    exact ih stage.step (stage.apply tokens)

theorem letters_of_trace {rule : Rule} {phrase : List Char} {before : List (Step × List Token)}
    {step : Step} {parts : List Token} (h : rule.trace phrase = before ++ [(step, parts)]) :
    rule.letters phrase = parts.flatten := by
  have hlast := Stage.getLast?_trace .tokenize (rule.tokens phrase) rule.stages
  rw [← trace, h, List.getLast?_concat] at hlast
  rw [letters, ← Option.some.inj hlast]

end Trace

section Steps

variable {config : Config} {dictionary : Option Dictionary} {rule : Rule}

theorem trace_eq (hrule : ofConfig config dictionary = .ok rule) (phrase : List Char) :
    let tokens := tokenize (config.charset.normalize phrase)
    let kept := (Stride.multiples config.step tokens).map (config.replace dictionary)
    rule.trace phrase = [(.tokenize, tokens), (.replace, tokens.map (config.replace dictionary)),
      (.selectTokens, kept), (.selectCharacters, kept.map config.pick)] := by
  obtain ⟨-, hstep, rfl⟩ := ofConfig_eq_ok_iff.mp hrule
  intro tokens kept
  have hreplaced := Stage.apply_replace config dictionary tokens
  have hkept := Stage.apply_selectTokens_map ⟨config.step, hstep⟩ (config.replace dictionary) tokens
  simp only [trace, Rule.tokens, Config.stages, Stage.trace, Stage.step]
  rw [hreplaced, hkept]
  rfl

theorem letters_eq_flatMap (hrule : ofConfig config dictionary = .ok rule) (phrase : List Char) :
    rule.letters phrase =
      (Stride.multiples config.step (tokenize (config.charset.normalize phrase))).flatMap
        fun token => config.pick (config.replace dictionary token) := by
  have hlast : rule.trace phrase = [_, _, _] ++ [(.selectCharacters, _)] := trace_eq hrule phrase
  rw [letters_of_trace hlast, List.map_map]
  exact (List.flatMap_def ..).symm

-- What a rule shows at each step and the password that it gives can be read off the tokens of the
-- phrase in one pass, which replaces the kept words alone.
theorem steps_eq_onePass (hrule : ofConfig config dictionary = .ok rule) (phrase : List Char) :
    let tokens := tokenize (config.charset.normalize phrase)
    let kept := Stride.multiples config.step tokens
    let replace := config.replace dictionary
    let password := kept.flatMap fun token => config.pick (replace token)
    rule.steps phrase = [[' '].intercalate tokens, [' '].intercalate (tokens.map replace),
        [' '].intercalate (kept.map replace), password] ∧
      (rule.trace phrase).map (·.1) = Step.all ∧
      rule.apply phrase =
        if config.spaced then Text.trim (password.flatMap fun c => [c, ' ']) else password := by
  intro tokens kept replace password
  have htrace := trace_eq hrule phrase
  have hletters : rule.letters phrase = password := letters_eq_flatMap hrule phrase
  have hconfig : rule.config = config := (ofConfig_eq_ok hrule).1
  have hlast : rule.trace phrase = [_, _, _] ++ [(.selectCharacters, _)] := htrace
  refine ⟨?_, ?_, ?_⟩
  · rw [steps, htrace, ← hletters, letters_of_trace hlast]
    rfl
  · rw [htrace]
    rfl
  · rw [apply_eq, hconfig, hletters]
    rfl

theorem steps_eq_onePass_castle :
    ∃ rule, ofConfig ⟨.ascii, .wordPrefixes, 2, [0, -1], true⟩ (some .builtin) = .ok rule ∧
      rule.steps "Attack the castle today".toList = [
        "Attack the castle today".toList, "@tack the castle 2day".toList,
        "@tack castle".toList, "@kce".toList] ∧
      rule.apply "Attack the castle today".toList = "@ k c e".toList := by
  have hrule : ofConfig ⟨.ascii, .wordPrefixes, 2, [0, -1], true⟩ (some .builtin) = .ok _ := rfl
  obtain ⟨hsteps, -, hpassword⟩ := steps_eq_onePass hrule "Attack the castle today".toList
  refine ⟨_, hrule, hsteps.trans ?_, hpassword.trans ?_⟩
  · rw [Charset.normalize_eq_flatMap]
    decide +kernel
  · rw [Charset.normalize_eq_flatMap]
    decide +kernel

end Steps

end Acrostic.Rule
