import Acrostic.Corpus.Decoder

namespace Acrostic.Corpus.Utf8

-- Between characters, or within one: its value so far, how many bytes it lacks, and the bounds
-- of the next one
inductive State where
  | ready
  | within (value lacking : Nat) (low high : UInt8)
deriving DecidableEq

def first (byte : UInt8) : State × List Piece :=
  if byte < 0x80 then (.ready, [some (Char.ofNat byte.toNat)])
  else if byte < 0xC2 then (.ready, [none])
  else if byte < 0xE0 then (.within (byte.toNat - 0xC0) 1 0x80 0xBF, [])
  else if byte = 0xE0 then (.within 0 2 0xA0 0xBF, [])
  else if byte = 0xED then (.within 0xD 2 0x80 0x9F, [])
  else if byte < 0xF0 then (.within (byte.toNat - 0xE0) 2 0x80 0xBF, [])
  else if byte = 0xF0 then (.within 0 3 0x90 0xBF, [])
  else if byte < 0xF4 then (.within (byte.toNat - 0xF0) 3 0x80 0xBF, [])
  else if byte = 0xF4 then (.within 4 3 0x80 0x8F, [])
  else (.ready, [none])

-- A byte that cannot go on with a character ends it as malformed and is read anew.
def step : State → UInt8 → State × List Piece
  | .ready, byte => first byte
  | .within value lacking low high, byte =>
    if low ≤ byte ∧ byte ≤ high then
      let value := value * 64 + (byte.toNat - 0x80)
      if lacking ≤ 1 then (.ready, [some (Char.ofNat value)])
      else (.within value (lacking - 1) 0x80 0xBF, [])
    else
      let (state, pieces) := first byte
      (state, none :: pieces)

def finish : State → List Piece
  | .ready => []
  | .within _ _ _ _ => [none]

def decoder : Decoder where
  State := State
  start := .ready
  step := step
  finish := finish

def isWellFormed (bytes : List UInt8) : Bool :=
  isClean (decoder.run bytes)

-- Whether the bytes are well-formed but for a character that is cut off at their end
def isCutOff (bytes : List UInt8) : Bool :=
  match decoder.feed (decoder.start, []) bytes with
  | (.ready, _) => false
  | (.within _ _ _ _, pieces) => isClean pieces

-- The text as bytes
def encode (text : List Char) : List UInt8 :=
  text.flatMap String.utf8EncodeChar

end Acrostic.Corpus.Utf8
