import Acrostic.Unicode.Word.BreakRows

namespace Acrostic.Unicode

-- The classes of the Word_Break property
inductive WordBreak where
  | other
  | cr
  | lf
  | newline
  | extend
  | zwj
  | regionalIndicator
  | format
  | katakana
  | hebrewLetter
  | aLetter
  | singleQuote
  | doubleQuote
  | midNumLet
  | midLetter
  | midNum
  | numeric
  | extendNumLet
  | wSegSpace
deriving DecidableEq, Repr

namespace WordBreak

def aLetterSet : CharSet := CharSet.ofRows aLetterRows
def hebrewLetterSet : CharSet := CharSet.ofRows hebrewLetterRows
def katakanaSet : CharSet := CharSet.ofRows katakanaRows
def numericSet : CharSet := CharSet.ofRows numericRows
def extendSet : CharSet := CharSet.ofRows extendRows
def formatSet : CharSet := CharSet.ofRows formatRows
def extendNumLetSet : CharSet := CharSet.ofRows extendNumLetRows
def midLetterSet : CharSet := CharSet.ofRows midLetterRows
def midNumSet : CharSet := CharSet.ofRows midNumRows
def midNumLetSet : CharSet := CharSet.ofRows midNumLetRows
def wSegSpaceSet : CharSet := CharSet.ofRows wSegSpaceRows

def ofAscii (c : Char) : WordBreak :=
  if c.isAlpha then aLetter
  else if c.isDigit then numeric
  else match c with
    | ' ' => wSegSpace
    | '_' => extendNumLet
    | '.' => midNumLet
    | ',' | ';' => midNum
    | ':' => midLetter
    | '\r' => cr
    | '\n' => lf
    | _ =>
      if c.toNat = 0x27 then singleQuote
      else if c.toNat = 0x22 then doubleQuote
      else if c.toNat = 0x0B ∨ c.toNat = 0x0C then newline
      else other

def ofPoint (point : Nat) : WordBreak :=
  if aLetterSet.contains point then aLetter
  else if extendSet.contains point then extend
  else if numericSet.contains point then numeric
  else if katakanaSet.contains point then katakana
  else if hebrewLetterSet.contains point then hebrewLetter
  else if formatSet.contains point then format
  else if wSegSpaceSet.contains point then wSegSpace
  else if extendNumLetSet.contains point then extendNumLet
  else if midLetterSet.contains point then midLetter
  else if midNumLetSet.contains point then midNumLet
  else if midNumSet.contains point then midNum
  else if point = 0x200D then zwj
  else if point = 0x85 ∨ point = 0x2028 ∨ point = 0x2029 then newline
  else if 0x1F1E6 ≤ point ∧ point ≤ 0x1F1FF then regionalIndicator
  else other

-- The class of a character
def ofChar (c : Char) : WordBreak :=
  if c.toNat < 0x80 then ofAscii c else ofPoint c.toNat

-- Letters of a word
def isLetter (kind : WordBreak) : Bool :=
  kind == aLetter || kind == hebrewLetter

-- Line ends, on both sides of which a boundary stands
def isLineEnd (kind : WordBreak) : Bool :=
  kind == cr || kind == lf || kind == newline

-- Characters that stay with the one before them and that the other rules look through
def isTransparent (kind : WordBreak) : Bool :=
  kind == extend || kind == format || kind == zwj

-- Joins two letters
def joinsLetters (kind : WordBreak) : Bool :=
  kind == midLetter || kind == midNumLet || kind == singleQuote

-- Joins two digits
def joinsDigits (kind : WordBreak) : Bool :=
  kind == midNum || kind == midNumLet || kind == singleQuote

end WordBreak

def pictographicSet : CharSet := CharSet.ofRows pictographicRows

def isPictographic (c : Char) : Bool :=
  pictographicSet.contains c.toNat

end Acrostic.Unicode
