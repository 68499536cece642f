import Acrostic.Rule.Error
import Acrostic.Unicode.Casing
import Acrostic.Unicode.Normal

namespace Acrostic

-- The alphabets that phrases are cast into
inductive Charset where
  -- the visible ASCII characters and the space
  | ascii
  -- the lowercase Latin letters, space, tab and line feed
  | lowercaseLetters
deriving DecidableEq, Repr

namespace Charset

def name : Charset → String
  | ascii => "ascii"
  | lowercaseLetters => "lowercase-letters"

def parse (text : List Char) : Except Rule.Error Charset :=
  if text = ascii.name.toList then .ok ascii
  else if text = lowercaseLetters.name.toList then .ok lowercaseLetters
  else .error (.unknownCharset text)

-- Symbols that no decomposition turns into ASCII characters
def spelling? : Char → Option (List Char)
  | '¢' => some ['C', 'e', 'n', 't']
  | '£' => some ['P', 'o', 'u', 'n', 'd']
  | '¥' => some ['Y', 'e', 'n']
  | '¦' => some ['|']
  | '©' => some ['C']
  | '«' => some ['\x22']
  | '®' => some ['R']
  | '±' => some ['+', '-']
  | 'µ' => some ['m', 'u']
  | '»' => some ['\x22']
  | '¼' => some ['1', '/', '4']
  | '½' => some ['1', '/', '2']
  | '¾' => some ['3', '/', '4']
  | 'Æ' => some ['A', 'E']
  | 'Ð' => some ['D']
  | '×' => some ['x']
  | 'Ø' => some ['O']
  | 'Þ' => some ['T', 'h']
  | 'ß' => some ['s', 's']
  | 'æ' => some ['a', 'e']
  | 'ð' => some ['d']
  | '÷' => some ['/']
  | 'ø' => some ['o']
  | 'þ' => some ['t', 'h']
  | '€' => some ['E', 'u', 'r', 'o']
  | _ => none

-- The text with these symbols spelled out
def spellOut (text : List Char) : List Char :=
  text.flatMap fun c => (spelling? c).getD [c]

-- Compatibility composition and then canonical decomposition: ligatures and variants come apart,
-- accented letters become a letter and its marks
def decompose (text : List Char) : List Char :=
  Unicode.decomposeCanonical (Unicode.composeCompatibility text)

def isAscii (c : Char) : Bool :=
  c.toNat < 0x80

def isControl (c : Char) : Bool :=
  c.toNat < 0x20 || c.toNat == 0x7F

def isLetterOrSpace (c : Char) : Bool :=
  c.isAlpha || c == ' ' || c == '\t' || c == '\n'

def keepAscii (text : List Char) : List Char :=
  text.filter isAscii

def dropControls (text : List Char) : List Char :=
  text.filter (!isControl ·)

def keepLettersAndSpaces (text : List Char) : List Char :=
  text.filter isLetterOrSpace

-- The text cast into the alphabet; what cannot be cast is dropped
def normalize (charset : Charset) (text : List Char) : List Char :=
  let decomposed := decompose (spellOut text)
  match charset with
  | ascii => dropControls (keepAscii decomposed)
  | lowercaseLetters => Unicode.lowercase (keepLettersAndSpaces decomposed)

end Charset

end Acrostic
