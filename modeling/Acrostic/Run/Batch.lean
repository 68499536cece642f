import Acrostic.Corpus.File
import Acrostic.Output.Partitions
import Acrostic.Report.Heartbeat
import Acrostic.Rule
import Acrostic.Run.Collection
import Acrostic.Run.Environment
import Acrostic.Run.Outcome

namespace Acrostic.Run

open Corpus (Reader)
open Output (Partitions partitionName)
open Report (Heartbeat Notice Statistics)
open Storage (Fault Path Store)

-- The passwords of a whole corpus, sorted into files by their lengths
structure BatchTask where
  input : Path
  folder : Path
  lengths : LengthRange
  selection : Selection
  -- how many bytes are written at once into each file
  capacity : Nat
  quiet : Bool
  verbose : Bool

namespace BatchTask

-- What has been done so far, and the fault that has stopped the work
structure Progress where
  partitions : Partitions
  store : Store
  statistics : Statistics
  heartbeat : Heartbeat
  -- the number of chunks taken
  chunks : Nat
  stopped : Option Fault

-- What the workers share
abbrev Counted := Statistics × Heartbeat

def addLine : Counted → Counted
  | (statistics, heartbeat) => (statistics.addLines 1, heartbeat)

def beatAt (count : UInt64) : Counted → Counted
  | (statistics, heartbeat) => (statistics, (heartbeat.beat count).2)

def addHeartbeat : Counted → Counted
  | (statistics, heartbeat) => (statistics.addHeartbeat, heartbeat)

-- Counts a line, and signals if that count is due. The counts of other lines may come between
-- any two steps.
def countingJob {β : Type} (result : β) : Job Counted β :=
  .act addLine fun counted =>
    let count := counted.1.lines
    .act (beatAt count) fun _ =>
      if Heartbeat.isDue count then .act addHeartbeat fun _ => .done result else .done result

def countLine (counted : Counted) : Counted :=
  ((countingJob ()).run counted).2

-- A password and its length, unless it is out of range
def route (rule : Rule) (lengths : LengthRange) (line : List Char) :
    Option (Nat × List Char) :=
  let password := rule.apply line
  (lengths.route password).map fun length => (length, password)

-- Writes the passwords of a chunk up to the first that is refused
def writeEntries : List (Option (Nat × List Char)) → Progress → Progress
  | [], progress => progress
  | none :: rest, ⟨partitions, store, statistics, heartbeat, chunks, stopped⟩ =>
    writeEntries rest ⟨partitions, store, statistics.addDropped 1, heartbeat, chunks, stopped⟩
  | some (length, password) :: rest, ⟨partitions, store, statistics, heartbeat, chunks, stopped⟩ =>
    match partitions.writeLine store password length with
    | (.error fault, partitions, store) =>
      ⟨partitions, store, statistics, heartbeat, chunks, some fault⟩
    | (.ok (), partitions, store) =>
      let statistics := (statistics.incrementPartition (partitionName length)).addWritten 1
      writeEntries rest ⟨partitions, store, statistics, heartbeat, chunks, stopped⟩

-- All lines of a chunk are counted before the first password is written.
def takeChunk (environment : Environment) (rule : Rule) (lengths : LengthRange)
    (progress : Progress) (lines : List (List Char)) : Progress :=
  match progress with
  | ⟨partitions, store, statistics, heartbeat, chunks, some fault⟩ =>
    ⟨partitions, store, statistics, heartbeat, chunks, some fault⟩
  | ⟨partitions, store, statistics, heartbeat, chunks, none⟩ =>
    let jobs := lines.map fun line => countingJob (route rule lengths line)
    let (entries, statistics, heartbeat) :=
      (environment.pools chunks).work jobs (statistics, heartbeat)
    writeEntries entries ⟨partitions, store, statistics, heartbeat, chunks + 1, none⟩

-- The file counts as done, unless the work has ended
def completeFile (size lossy : Nat) : Progress → Progress
  | ⟨partitions, store, statistics, heartbeat, chunks, some fault⟩ =>
    ⟨partitions, store, statistics, heartbeat, chunks, some fault⟩
  | ⟨partitions, store, statistics, heartbeat, chunks, none⟩ =>
    let statistics :=
      (statistics.addLossy (UInt64.ofNat lossy)).completeFile (UInt64.ofNat size)
    ⟨partitions, store, statistics, heartbeat, chunks, none⟩

def takeFile (environment : Environment) (rule : Rule) (lengths : LengthRange)
    (progress : Progress) (found : Found) : Progress :=
  match progress with
  | ⟨partitions, store, statistics, heartbeat, chunks, some fault⟩ =>
    ⟨partitions, store, statistics, heartbeat, chunks, some fault⟩
  | ⟨partitions, store, statistics, heartbeat, chunks, none⟩ =>
    match Reader.openFileBy environment.guess store found.path with
    | .error fault => ⟨partitions, store, statistics, heartbeat, chunks, some fault⟩
    | .ok reader =>
      let (progress, reader) := reader.foldChunks chunkSize (takeChunk environment rule lengths)
        ⟨partitions, store, statistics, heartbeat, chunks, none⟩
      completeFile found.size reader.lossy progress

def countFiles (files : List Found) : Statistics :=
  files.foldl (fun statistics found => statistics.addFile (UInt64.ofNat found.size)) .zero

def opening (task : BatchTask) (files : List Found) (statistics : Statistics) : List Notice :=
  unlessQuiet task.quiet [
    .info ("Found " ++ toString files.length ++ " files (" ++ Report.bytesText statistics.bytes ++
      " total)"),
    .header ("Generating passwords of length " ++ toString task.lengths.min ++ " to " ++
      toString task.lengths.max ++ "...")]

def shareText (share : Partitions.Share) : String :=
  "Length " ++ toString share.length ++ ": " ++ String.ofList share.path.quoted ++ " (" ++
    String.ofList (Report.grouped share.lines) ++ " passwords)"

def closing (task : BatchTask) (partitions : Partitions) (statistics : Statistics) :
    List Notice :=
  unlessQuiet task.quiet (
    .success "Output files created:" ::
    partitions.shares.map (fun share => .bullet (shareText share)) ++ [.summary statistics])

-- Whatever has been written is in the files at the end, also after a fault.
def finish (task : BatchTask) : Progress → Outcome
  | ⟨partitions, store, statistics, heartbeat, _, stopped⟩ =>
    let (partitions, store) := partitions.flush store
    match stopped with
    | some fault => ⟨.error (.storage fault), store, statistics, heartbeat.position, []⟩
    | none =>
      ⟨.ok (), store, statistics, statistics.lines, task.closing partitions statistics⟩

-- Works on the files that have been collected
def runOn (environment : Environment) (rule : Rule) (task : BatchTask) (files : List Found)
    (store : Store) : Outcome :=
  let statistics := countFiles files
  let notices := task.opening files statistics
  match store.ensureFolder task.folder with
  | (.error fault, store) => ⟨.error (.storage fault), store, statistics, 0, notices⟩
  | (.ok (), store) =>
    let partitions := Partitions.ofFolder task.folder task.capacity
    let outcome := task.finish (files.foldl (takeFile environment rule task.lengths)
      ⟨partitions, store, statistics, ⟨0⟩, 0, none⟩)
    { outcome with notices := notices ++ outcome.notices }

def runIn (environment : Environment) (rule : Rule) (task : BatchTask) (store : Store) : Outcome :=
  let scanning := unlessQuiet task.quiet [.header "Scanning input..."]
  match task.selection.collect store task.input with
  | .error failure => ⟨.error failure, store, .zero, 0, scanning⟩
  | .ok [] =>
    ⟨.ok (), store, .zero, 0, scanning ++ [.warning "No files found to process!"]⟩
  | .ok (file :: files) =>
    let outcome := runOn environment rule task (file :: files) store
    { outcome with notices := scanning ++ outcome.notices }

end BatchTask

end Acrostic.Run
