import Acrostic.Rule.Error
import Acrostic.Text.Decimal
import Acrostic.Text.Split
import Acrostic.Unicode.Alphabetic

-- Positions in a word as they are written in a rule: 1st, 2nd, last, 2ndlast
namespace Acrostic.Ordinal

def backKeyword : List Char := ['l', 'a', 's', 't']

def selectionKeyword : List Char := ['e', 'v', 'e', 'r', 'y']

-- A number and its two letters, which need not fit the number
def number (text body : List Char) : Except Rule.Error Int :=
  let digits := body.take (body.length - 2)
  let suffix := body.drop (body.length - 2)
  if body.length < 3 || !suffix.all Unicode.isAlphabetic then .error (.missingSuffix text)
  else match Text.readInteger? digits with
    | none => .error (.invalidNumber text)
    | some value => if value < 1 then .error (.nonPositiveNumber text) else .ok value

-- Front ordinals count from 0, back ordinals from -1.
def parse (text : List Char) : Except Rule.Error Int :=
  if text = backKeyword then .ok (-1)
  else if backKeyword.isSuffixOf text then
    (number text (text.take (text.length - backKeyword.length))).map fun value => -value
  else (number text text).map fun value => value - 1

-- The step of a selection such as every or every3rd
def parseSelection (text : List Char) : Except Rule.Error Nat :=
  if selectionKeyword.isPrefixOf text then
    match text.drop selectionKeyword.length with
    | [] => .ok 1
    | rest => do
      let index ← parse (Text.trim rest)
      if index < 0 then .error (.backwardSelection text) else .ok (index.toNat + 1)
  else .error (.notSelection text)

-- Drops empty entries from the end, but for the first one
def dropEmptyTail : List (List Char) → List (List Char)
  | [] => []
  | first :: rest => first :: (rest.reverse.dropWhile List.isEmpty).reverse

-- Ordinals separated by plus signs, in the order given
def parseList (text : List Char) : Except Rule.Error (List Int) :=
  (dropEmptyTail ((text.splitOn '+').map Text.trim)).mapM parse

end Acrostic.Ordinal
