import Acrostic.Charset
import Acrostic.Stride

namespace Acrostic

-- What happens to the stems of tokens
inductive Replacement where
  | none
  | wordPrefixes
deriving DecidableEq, Repr

namespace Replacement

def name : Replacement → String
  | none => "none"
  | wordPrefixes => "word-prefixes"

def needsDictionary : Replacement → Bool
  | none => false
  | wordPrefixes => true

def parse (text : List Char) : Except Rule.Error Replacement :=
  if text = none.name.toList then .ok none
  else if text = wordPrefixes.name.toList then .ok wordPrefixes
  else .error (.unknownReplacement text)

end Replacement

namespace Rule

-- The settings of a rule
structure Config where
  charset : Charset
  replacement : Replacement
  -- every how many words one is kept
  step : Nat
  -- the characters taken from each word, in this order
  positions : List Int
  -- whether the characters of a password are set apart by spaces
  spaced : Bool
deriving DecidableEq

namespace Config

-- True or false, in any case of the ASCII letters
def parseFlag (text : List Char) : Except Rule.Error Bool :=
  let folded := text.map Char.toLower
  if folded = ['t', 'r', 'u', 'e'] then .ok true
  else if folded = ['f', 'a', 'l', 's', 'e'] then .ok false
  else .error (.invalidFlag text)

-- Reads the fields in order; the first that is wrong decides the error.
def parse (charset replacement selection positions : List Char) (flag : Option (List Char)) :
    Except Rule.Error Config := do
  let charset ← Charset.parse charset
  let replacement ← Replacement.parse replacement
  let stride ← Stride.parse selection
  let positions ← Ordinal.parseList positions
  let spaced ← match flag with
    | some text => parseFlag text
    | none => .ok false
  return ⟨charset, replacement, stride.step, positions, spaced⟩

-- Four fields, or five with the flag
def ofFields : List (List Char) → Except Rule.Error Config
  | [charset, replacement, selection, positions] =>
    parse charset replacement selection positions none
  | [charset, replacement, selection, positions, flag] =>
    parse charset replacement selection positions (some flag)
  | fields => .error (.fieldCount fields.length)

-- The fields from the position `start` on
def ofArguments (arguments : List (List Char)) (start : Nat) : Except Rule.Error Config :=
  ofFields (arguments.drop start)

end Config

end Rule

end Acrostic
