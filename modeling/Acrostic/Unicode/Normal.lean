import Acrostic.Unicode.CombiningRows
import Acrostic.Unicode.Hangul
import Acrostic.Unicode.Normal.CanonicalRows
import Acrostic.Unicode.Normal.CompatibilityRows
import Acrostic.Unicode.Normal.CompositeRows

-- The normalization forms D, KD and KC
namespace Acrostic.Unicode

def combiningTree : SpanTree Nat := SpanTree.ofList (valueSpans combiningRows)

def canonicalMap : CharMap := CharMap.ofRows canonicalRows

def compatibilityMap : CharMap := CharMap.ofRows compatibilityRows

-- The canonical combining class. Characters of class zero are starters;
-- everything below U+0300 is one.
def combiningClass (c : Char) : Nat :=
  if c.toNat < 0x300 then 0
  else match combiningTree.find? c.toNat with
    | some span => span.value
    | none => 0

-- The full canonical decomposition of one character
def canonicalChar (c : Char) : List Char :=
  if c.toNat < 0x80 then [c]
  else if Hangul.isSyllable c then Hangul.decompose c
  else (canonicalMap.image? c).getD [c]

-- The full compatibility decomposition of one character
def compatibilityChar (c : Char) : List Char :=
  if c.toNat < 0x80 then [c] else (compatibilityMap.image? c).getD (canonicalChar c)

-- Puts a character in front of an ordered text, behind the marks of lower class that it has to
-- follow. Marks of the same class keep their order, and nothing passes a starter.
def orderInto (c : Char) : List Char → List Char
  | [] => [c]
  | d :: rest =>
    if combiningClass d ≠ 0 ∧ combiningClass d < combiningClass c then d :: orderInto c rest
    else c :: d :: rest

-- The canonical ordering: in each run of marks, lower classes first
def canonicalOrder (text : List Char) : List Char :=
  text.foldr orderInto []

def decomposeCanonical (text : List Char) : List Char :=
  canonicalOrder (text.flatMap canonicalChar)

def decomposeCompatibility (text : List Char) : List Char :=
  canonicalOrder (text.flatMap compatibilityChar)

def pairKey (first second : Nat) : Nat :=
  first * 0x110000 + second

def compositesOf : List Nat → List (Span Nat)
  | first :: second :: composite :: rest =>
    ⟨pairKey first second, pairKey first second, composite⟩ :: compositesOf rest
  | _ => []

def compositeTree : SpanTree Nat :=
  SpanTree.ofList (compositesOf (compositeRows.flatMap (fields 20)))

-- The primary composite of two characters
def compose? (first second : Char) : Option Char :=
  match Hangul.compose? first second with
  | some syllable => some syllable
  | none =>
    (compositeTree.find? (pairKey first.toNat second.toNat)).map fun span => Char.ofNat span.value

-- A character does not reach the starter when a mark that stays between them
-- has its own class or a higher one. `between` lists these marks, the nearest first.
def isBlocked (between : List Char) (c : Char) : Bool :=
  match between with
  | [] => false
  | mark :: _ => combiningClass c ≤ combiningClass mark

-- `done` is what stands before the starter, backwards.
def composeOnto (starter : Char) (between done : List Char) : List Char → List Char
  | [] => done.reverse ++ starter :: between.reverse
  | c :: rest =>
    match if isBlocked between c then none else compose? starter c with
    | some composite => composeOnto composite between done rest
    | none =>
      if combiningClass c = 0 then composeOnto c [] (between ++ starter :: done) rest
      else composeOnto starter (c :: between) done rest

def isStarter (c : Char) : Bool :=
  combiningClass c == 0

-- The canonical composition of an ordered text
def compose (text : List Char) : List Char :=
  text.takeWhile (!isStarter ·) ++
    match text.dropWhile (!isStarter ·) with
    | [] => []
    | starter :: rest => composeOnto starter [] [] rest

def composeCompatibility (text : List Char) : List Char :=
  compose (decomposeCompatibility text)

end Acrostic.Unicode
