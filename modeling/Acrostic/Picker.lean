import Acrostic.Ordinal
import Acrostic.Token

namespace Acrostic

-- Picks characters of a token by position: 0 is the first one and -1 the last
structure Picker where
  positions : List Int
  -- whether a character that is named twice is taken twice
  duplicates : Bool
  -- whether positions outside the token wrap around, instead of naming nothing
  roundRobin : Bool

namespace Picker

def parse (text : List Char) (duplicates roundRobin : Bool) : Except Rule.Error Picker := do
  return ⟨← Ordinal.parseList text, duplicates, roundRobin⟩

def reaches (picker : Picker) (length : Nat) (position : Int) : Bool :=
  picker.roundRobin || (-(length : Int) ≤ position && position < length)

-- `seen` holds the indices of the characters that are taken and may not be taken again.
def pickFrom (picker : Picker) (token : Token) (seen : List Nat) : List Int → List Char
  | [] => []
  | position :: rest =>
    let index := (position % (token.length : Int)).toNat
    if !picker.reaches token.length position || seen.contains index then
      pickFrom picker token seen rest
    else match token[index]? with
      | none => pickFrom picker token seen rest
      | some c =>
        c :: pickFrom picker token (if picker.duplicates then seen else index :: seen) rest

-- The characters at the positions, in the order of the positions
def select (picker : Picker) (token : Token) : List Char :=
  if token.isEmpty then [] else picker.pickFrom token [] picker.positions

end Picker

end Acrostic
