import Acrostic.Corpus.Utf8
import Acrostic.Corpus.Utf16
import Acrostic.Corpus.Windows1252

namespace Acrostic.Corpus

-- The encodings that come with a decoder
inductive Scheme where
  | utf8
  | utf16 (order : Utf16.ByteOrder)
  | windows1252
deriving DecidableEq, Repr

namespace Scheme

def name : Scheme → String
  | utf8 => "UTF-8"
  | utf16 .littleEndian => "UTF-16LE"
  | utf16 .bigEndian => "UTF-16BE"
  | windows1252 => "windows-1252"

def decoder : Scheme → Decoder
  | utf8 => Utf8.decoder
  | utf16 order => Utf16.decoder order
  | windows1252 => Windows1252.decoder

end Scheme

-- The encodings that a corpus may be written in. Any other one is given by its name and by what it
-- makes of bytes that are a text of their own.
inductive Encoding where
  | known (scheme : Scheme)
  | other (name : String) (decode : List UInt8 → List Piece)

namespace Encoding

abbrev utf8 : Encoding := known .utf8

abbrev utf16 (order : Utf16.ByteOrder) : Encoding := known (.utf16 order)

abbrev windows1252 : Encoding := known .windows1252

def name : Encoding → String
  | known scheme => scheme.name
  | other name _ => name

-- The bytes as a complete text
def decode : Encoding → List UInt8 → List Piece
  | known scheme => scheme.decoder.run
  | other _ decode => decode

-- The encoding that a byte order mark at the start names, and the length of the mark
def ofMark? : List UInt8 → Option (Encoding × Nat)
  | 0xEF :: 0xBB :: 0xBF :: _ => some (utf8, 3)
  | 0xFF :: 0xFE :: _ => some (utf16 .littleEndian, 2)
  | 0xFE :: 0xFF :: _ => some (utf16 .bigEndian, 2)
  | _ => none

-- How many bytes are looked at to find the encoding
def sampleSize : Nat := 64 * 1024

-- `guess` gives the encoding of a sample that has no mark and is not well-formed.
def detect (guess : List UInt8 → Encoding) (content : List UInt8) : Encoding :=
  let sample := content.take sampleSize
  match ofMark? sample with
  | some (encoding, _) => encoding
  | none => if Utf8.isWellFormed sample then utf8 else guess sample

end Encoding

end Acrostic.Corpus
