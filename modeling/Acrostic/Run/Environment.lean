import Acrostic.Corpus.Encoding
import Acrostic.Run.Workers

namespace Acrostic.Run

-- What a run depends on besides its task and the files
structure Environment where
  -- the encoding that is taken for a sample that is not well-formed
  guess : List UInt8 → Corpus.Encoding
  -- the workers for each chunk of lines, one chunk after the other
  pools : Nat → Pool

-- A single worker for every chunk
def Environment.serial (guess : List UInt8 → Corpus.Encoding) : Environment where
  guess := guess
  pools := fun _ => .single

end Acrostic.Run
