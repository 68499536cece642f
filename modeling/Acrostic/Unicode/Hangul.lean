-- Hangul syllables decompose and compose by arithmetic on their code points.
namespace Acrostic.Unicode.Hangul

def syllableBase : Nat := 0xAC00
def leadBase : Nat := 0x1100
def vowelBase : Nat := 0x1161
def tailBase : Nat := 0x11A7
def leadCount : Nat := 19
def vowelCount : Nat := 21
def tailCount : Nat := 28
def syllableCount : Nat := leadCount * vowelCount * tailCount

def isSyllable (c : Char) : Bool :=
  syllableBase ≤ c.toNat && c.toNat < syllableBase + syllableCount

-- The two or three jamo of a syllable
def decompose (c : Char) : List Char :=
  let index := c.toNat - syllableBase
  let lead := Char.ofNat (leadBase + index / (vowelCount * tailCount))
  let vowel := Char.ofNat (vowelBase + index % (vowelCount * tailCount) / tailCount)
  if index % tailCount = 0 then [lead, vowel]
  else [lead, vowel, Char.ofNat (tailBase + index % tailCount)]

-- A leading consonant and a vowel, or a syllable without a tail and a tail
def compose? (first second : Char) : Option Char :=
  if leadBase ≤ first.toNat && first.toNat < leadBase + leadCount &&
      vowelBase ≤ second.toNat && second.toNat < vowelBase + vowelCount then
    some (Char.ofNat (syllableBase +
      ((first.toNat - leadBase) * vowelCount + (second.toNat - vowelBase)) * tailCount))
  else if isSyllable first && (first.toNat - syllableBase) % tailCount == 0 &&
      tailBase < second.toNat && second.toNat < tailBase + tailCount then
    some (Char.ofNat (first.toNat + (second.toNat - tailBase)))
  else none

end Acrostic.Unicode.Hangul
