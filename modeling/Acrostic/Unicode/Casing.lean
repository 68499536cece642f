import Acrostic.Unicode.Casing.CasedRows
import Acrostic.Unicode.Casing.LowerRows
import Acrostic.Unicode.Casing.UpperRows

namespace Acrostic.Unicode

def casedSet : CharSet := CharSet.ofRows casedRows

def caseIgnorableSet : CharSet := CharSet.ofRows caseIgnorableRows

def lowerMap : CharMap := CharMap.ofRows lowerRows

def upperMap : CharMap := CharMap.ofRows upperRows

def isCased (c : Char) : Bool :=
  if c.toNat < 0x80 then c.isAlpha else casedSet.contains c.toNat

-- Below U+0080 these are the apostrophe, the full stop, the colon, the circumflex and the grave.
def isCaseIgnorable (c : Char) : Bool :=
  if c.toNat < 0x80 then
    c.toNat == 0x27 || c.toNat == 0x2E || c.toNat == 0x3A || c.toNat == 0x5E || c.toNat == 0x60
  else caseIgnorableSet.contains c.toNat

-- A character in lowercase, whatever stands beside it
def lowerChar (c : Char) : List Char :=
  if c.toNat < 0x80 then [c.toLower] else (lowerMap.image? c).getD [c]

def upperChar (c : Char) : List Char :=
  if c.toNat < 0x80 then [c.toUpper] else (upperMap.image? c).getD [c]

-- Whether the next character that is not case-ignorable exists and is cased
def meetsCased (text : List Char) : Bool :=
  (text.dropWhile isCaseIgnorable).head?.any isCased

def capitalSigma : Char := Char.ofNat 0x3A3

-- A capital sigma that ends a word becomes a final sigma:
-- there is a cased character before it and none after it.
-- `before` is the text in front of the sigma, backwards.
def lowerSigma (before after : List Char) : Char :=
  if meetsCased before && !meetsCased after then Char.ofNat 0x3C2 else Char.ofNat 0x3C3

-- `before` is the text read so far and `done` its lowercase form, both backwards.
def lowerFrom (before done : List Char) : List Char → List Char
  | [] => done.reverse
  | c :: after =>
    if c = capitalSigma then lowerFrom (c :: before) (lowerSigma before after :: done) after
    else lowerFrom (c :: before) ((lowerChar c).reverse ++ done) after

-- The text in lowercase
def lowercase (text : List Char) : List Char :=
  lowerFrom [] [] text

-- The text in uppercase, where no character depends on its neighbours
def uppercase (text : List Char) : List Char :=
  text.flatMap upperChar

end Acrostic.Unicode
