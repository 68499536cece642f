import Acrostic.Corpus.File
import Acrostic.Run.Apply
import Acrostic.Run.Batch

namespace Acrostic

open Corpus (Encoding Reader)
open Storage (Fault Path Store)

namespace Run

-- Stands in for a detector of encodings where the program is run. No theorem rests on it: what is
-- proved of runs holds for every guess. A full sample may end within a character.
def standardGuess (sample : List UInt8) : Encoding :=
  if Encoding.sampleSize ≤ sample.length && Corpus.Utf8.isCutOff sample then .utf8 else .windows1252

def Environment.standard : Environment := .serial standardGuess

def ApplyTask.run (rule : Rule) (task : ApplyTask) (store : Store) : Outcome :=
  runIn .standard rule task store

def BatchTask.run (rule : Rule) (task : BatchTask) (store : Store) : Outcome :=
  runIn .standard rule task store

end Run

def Corpus.Reader.openFile (store : Store) (path : Path) : Except Fault Reader :=
  openFileBy Run.standardGuess store path

end Acrostic
