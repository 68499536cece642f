import Acrostic.Corpus.File
import Acrostic.Output.Writer
import Acrostic.Rule
import Acrostic.Run.Environment
import Acrostic.Run.Outcome

namespace Acrostic.Run

open Corpus (Reader)
open Output (Writer)
open Report (Notice Statistics)
open Storage (Path Store)

-- One password for each line of a file, in the same order
structure ApplyTask where
  input : Path
  output : Path
  -- how many bytes are written at once
  capacity : Nat
  quiet : Bool
  verbose : Bool

namespace ApplyTask

-- The passwords written so far
structure Progress where
  writer : Writer
  store : Store
  statistics : Statistics
  -- the number of chunks taken
  chunks : Nat

def writePassword : Progress → List Char → Progress
  | ⟨writer, store, statistics, chunks⟩, password =>
    let (writer, store) := writer.writeLine store password
    ⟨writer, store, statistics, chunks⟩

def countChunk : Progress → UInt64 → Progress
  | ⟨writer, store, statistics, chunks⟩, count =>
    ⟨writer, store, (statistics.addLines count).addWritten count, chunks + 1⟩

-- The workers share nothing but the rule.
def passwordJob (rule : Rule) (line : List Char) : Job Unit (List Char) :=
  .done (rule.apply line)

def takeChunk (environment : Environment) (rule : Rule) (progress : Progress)
    (lines : List (List Char)) : Progress :=
  let passwords := ((environment.pools progress.chunks).work (lines.map (passwordJob rule)) ()).1
  countChunk (passwords.foldl writePassword progress) (UInt64.ofNat passwords.length)

def opening (task : ApplyTask) (reader : Reader) : List Notice :=
  unlessQuiet task.quiet [
    .header "Generating passwords...",
    .info ("Input:  " ++ String.ofList task.input.quoted ++ " (" ++
      String.ofList (Report.sizeText reader.size) ++ ", " ++ reader.encoding.name ++ ")"),
    .info ("Output: " ++ String.ofList task.output.quoted)]

def closing (task : ApplyTask) (written : Nat) (statistics : Statistics) : List Notice :=
  unlessQuiet task.quiet (
    .success (String.ofList (Report.grouped written) ++ " passwords written to " ++
      String.ofList task.output.quoted) ::
    if task.verbose then [.summary statistics] else [])

-- Writes the passwords into the file that has been opened
def finish (environment : Environment) (rule : Rule) (task : ApplyTask) (reader : Reader)
    (progress : Progress) : Outcome :=
  let size := UInt64.ofNat reader.size
  match reader.foldChunks chunkSize (takeChunk environment rule) progress with
  | (⟨writer, store, statistics, _⟩, reader) =>
    let (writer, store) := writer.flush store
    let statistics := (statistics.addLossy (UInt64.ofNat reader.lossy)).completeFile size
    ⟨.ok (), store, statistics, size, task.closing writer.lines statistics⟩

def runIn (environment : Environment) (rule : Rule) (task : ApplyTask) (store : Store) : Outcome :=
  match Reader.openFileBy environment.guess store task.input with
  | .error _ => ⟨.error (.notFile task.input), store, .zero, 0, []⟩
  | .ok reader =>
    let statistics := Statistics.zero.addFile (UInt64.ofNat reader.size)
    match Writer.create store task.output task.capacity with
    | .error fault => ⟨.error (.storage fault), store, statistics, 0, task.opening reader⟩
    | .ok (writer, store) =>
      let outcome := finish environment rule task reader ⟨writer, store, statistics, 0⟩
      { outcome with notices := task.opening reader ++ outcome.notices }

end ApplyTask

end Acrostic.Run
