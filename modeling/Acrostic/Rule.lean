import Acrostic.Dictionary
import Acrostic.Picker
import Acrostic.Rule.Config

namespace Acrostic

namespace Rule

-- The points at which the work on a phrase can be looked at
inductive Step where
  | tokenize
  | replace
  | selectTokens
  | selectCharacters
deriving DecidableEq, Repr

namespace Step

def all : List Step := [tokenize, replace, selectTokens, selectCharacters]

def name : Step → String
  | tokenize => "tokenize"
  | replace => "replace"
  | selectTokens => "select tokens"
  | selectCharacters => "select characters"

end Step

-- What is done to a list of tokens
inductive Stage where
  | replace (dictionary : Option Dictionary)
  | selectTokens (stride : Stride)
  | selectCharacters (picker : Picker)

namespace Stage

-- The point that is reached when the stage is done
def step : Stage → Step
  | replace _ => .replace
  | selectTokens _ => .selectTokens
  | selectCharacters _ => .selectCharacters

def apply : Stage → List Token → List Token
  | replace none, tokens => tokens
  | replace (some dictionary), tokens => tokens.map dictionary.substitute
  | selectTokens stride, tokens => stride.select tokens
  | selectCharacters picker, tokens => tokens.map picker.select

-- The tokens after each of the stages
def trace (tokens : List Token) : List Stage → List (Step × List Token)
  | [] => []
  | stage :: rest =>
    let after := stage.apply tokens
    (stage.step, after) :: trace after rest

end Stage

end Rule

-- A rule turns a phrase into a password.
structure Rule where
  config : Rule.Config
  stages : List Rule.Stage

namespace Rule

-- The dictionary is needed exactly when stems are to be replaced, and is left aside otherwise.
def ofConfig (config : Config) (dictionary : Option Dictionary) : Except Error Rule := do
  let stems ← match config.replacement, dictionary with
    | .none, _ => .ok none
    | .wordPrefixes, some dictionary => .ok (some dictionary)
    | .wordPrefixes, none =>
      .error (.dictionary Replacement.wordPrefixes.name.toList .notLoaded)
  let stride ← Stride.ofCount config.step
  return {
    config
    stages := [.replace stems, .selectTokens stride,
      .selectCharacters ⟨config.positions, false, false⟩] }

-- The tokens of the phrase in the alphabet of the rule
def tokens (rule : Rule) (phrase : List Char) : List Token :=
  tokenize (rule.config.charset.normalize phrase)

-- One space behind each character, less the last one
def spread (text : List Char) : List Char :=
  Text.trim (text.flatMap fun c => [c, ' '])

def join (spaced : Bool) (parts : List Token) : List Char :=
  if spaced then spread parts.flatten else parts.flatten

-- The password of a phrase
def apply (rule : Rule) (phrase : List Char) : List Char :=
  join rule.config.spaced
    (rule.stages.foldl (fun tokens stage => stage.apply tokens) (rule.tokens phrase))

-- The tokens at each step
def trace (rule : Rule) (phrase : List Char) : List (Step × List Token) :=
  (.tokenize, rule.tokens phrase) :: Stage.trace (rule.tokens phrase) rule.stages

-- The parts of a password run together, other tokens stand apart.
def snapshot : Step × List Token → List Char
  | (.selectCharacters, parts) => join false parts
  | (_, tokens) => [' '].intercalate tokens

-- What is there to see at each step
def steps (rule : Rule) (phrase : List Char) : List (List Char) :=
  (rule.trace phrase).map snapshot

end Rule

end Acrostic
