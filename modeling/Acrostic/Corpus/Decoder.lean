namespace Acrostic.Corpus

-- A character, or nothing in place of bytes that encode none
abbrev Piece := Option Char

-- What is written for bytes that encode no character
def replacement : Char := Char.ofNat 0xFFFD

-- Reads an encoding byte by byte. Every step gives the characters that are complete by then,
-- and the end gives what is left over.
structure Decoder where
  State : Type
  start : State
  step : State → UInt8 → State × List Piece
  finish : State → List Piece

namespace Decoder

-- Reads bytes behind the pieces read before, which come last first
def feed (decoder : Decoder) (reached : decoder.State × List Piece) (bytes : List UInt8) :
    decoder.State × List Piece :=
  bytes.foldl (fun reached byte =>
    let (state, pieces) := decoder.step reached.1 byte
    (state, pieces.reverse ++ reached.2)) reached

-- The bytes as a complete text
def run (decoder : Decoder) (bytes : List UInt8) : List Piece :=
  let (state, pieces) := decoder.feed (decoder.start, []) bytes
  pieces.reverse ++ decoder.finish state

end Decoder

def textOf (pieces : List Piece) : List Char :=
  pieces.map (·.getD replacement)

-- Whether every byte belongs to a character
def isClean (pieces : List Piece) : Bool :=
  pieces.all Option.isSome

end Acrostic.Corpus
