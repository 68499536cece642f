import Acrostic.Proofs.Corpus.Detection
import Acrostic.Proofs.Run.Tally

namespace Acrostic.Run.BatchTask

open Corpus (Reader)
open Output (Partitions isPlain_partition partitionPath share written)
open Report (Heartbeat Statistics)
open Storage (Fault Path Place Store)

-- What has been done when the passwords are in the files of their lengths and counted: nothing else
-- has changed since the start.
structure HasRouted (start : Store) (folder : Path) (all done : List Found) (lines lossy : Nat)
    (routed : List (Option (Nat × List Char))) (progress : Progress) : Prop where
  partitions : Partitions.Holds start folder (· ∈ routed.reduceOption.map (·.1))
    routed.reduceOption progress.partitions progress.store
  tally : Tally all done lines lossy routed progress.statistics
  stopped : progress.stopped = none

section Entries

variable {start : Store} {folder : Path} {all done : List Found} {lines lossy : Nat}
  {routed : List (Option (Nat × List Char))} {progress : Progress}

theorem HasRouted.drop (h : HasRouted start folder all done lines lossy routed progress) :
    HasRouted start folder all done lines lossy (routed ++ [none])
      { progress with statistics := progress.statistics.addDropped 1 } := by
  refine ⟨?_, h.tally.drop, h.stopped⟩
  simpa [List.reduceOption_append] using h.partitions

theorem HasRouted.keep (h : HasRouted start folder all done lines lossy routed progress)
    {length : Nat} {password : List Char} {after : Partitions} {made : Store}
    (hwrite : progress.partitions.writeLine progress.store password length =
      (.ok (), after, made)) :
    HasRouted start folder all done lines lossy (routed ++ [some (length, password)])
      { progress with
        partitions := after
        store := made
        statistics := (progress.statistics.incrementPartition
          (Output.partitionName length)).addWritten 1 } := by
  have hentries : (routed ++ [some (length, password)]).reduceOption =
      routed.reduceOption ++ [(length, password)] := by
    simp [List.reduceOption_append]
  have hholds := h.partitions.writeLine (fun entry hentry => List.mem_map_of_mem hentry) hwrite
  refine ⟨?_, h.tally.keep length password, h.stopped⟩
  rw [hentries]
  simpa using hholds

-- What is written of a chunk, unless a password is refused
theorem HasRouted.writeEntries (h : HasRouted start folder all done lines lossy routed progress)
    {entries : List (Option (Nat × List Char))}
    (hok : (writeEntries entries progress).stopped = none) :
    HasRouted start folder all done lines lossy (routed ++ entries)
      (writeEntries entries progress) := by
  fun_induction BatchTask.writeEntries entries progress generalizing routed with
  | case1 progress => simpa using h
  | case2 rest partitions store statistics heartbeat chunks stopped ih =>
    simpa using ih h.drop hok
  | case3 => contradiction
  | case4 length password rest partitions store statistics heartbeat chunks stopped after made
      hwrite counted =>
    rename_i ih
    simpa using ih (h.keep hwrite) hok

end Entries

section Lines

variable {environment : Environment} {rule : Rule} {lengths : LengthRange} {start : Store}
  {folder : Path} {all done : List Found} {lossy : Nat} {read : List (List Char)}
  {progress : Progress}

-- The lines that have been read are routed, each by its password.
def HasTaken (rule : Rule) (lengths : LengthRange) (start : Store) (folder : Path)
    (all done : List Found) (lossy : Nat) (read : List (List Char)) (progress : Progress) : Prop :=
  progress.stopped = none →
    HasRouted start folder all done read.length lossy (read.map (route rule lengths)) progress

-- The lines of a chunk are all counted before the passwords are written.
theorem HasRouted.takeChunk_eq
    (h : HasRouted start folder all done read.length lossy (read.map (route rule lengths)) progress)
    (environment : Environment) (chunk : List (List Char)) :
    ∃ counted, HasRouted start folder all done (read.length + chunk.length) lossy
        (read.map (route rule lengths)) counted ∧
      takeChunk environment rule lengths progress chunk =
        BatchTask.writeEntries (chunk.map (route rule lengths)) counted := by
  obtain ⟨partitions, store, statistics, heartbeat, chunks, stopped⟩ := progress
  obtain rfl : stopped = none := h.stopped
  obtain ⟨hentries, hcounted⟩ := work_spec (environment.pools chunks) (route rule lengths) chunk
    (statistics, heartbeat)
  simp only [takeChunk, hentries]
  refine ⟨⟨partitions, store, _, _, chunks + 1, none⟩, ⟨h.partitions, ?_, rfl⟩, rfl⟩
  exact h.tally.count rfl hcounted

-- Work that has been stopped takes no more lines.
theorem takeChunk_of_stopped {fault : Fault} (h : progress.stopped = some fault)
    (environment : Environment) (rule : Rule) (lengths : LengthRange)
    (chunk : List (List Char)) : takeChunk environment rule lengths progress chunk = progress := by
  obtain ⟨partitions, store, statistics, heartbeat, chunks, stopped⟩ := progress
  obtain rfl : stopped = some fault := h
  rfl

theorem HasTaken.takeChunk (h : HasTaken rule lengths start folder all done lossy read progress)
    (environment : Environment) (chunk : List (List Char)) :
    HasTaken rule lengths start folder all done lossy (read ++ chunk)
      (takeChunk environment rule lengths progress chunk) := by
  intro hok
  cases hstopped : progress.stopped with
  | some fault =>
    rw [takeChunk_of_stopped hstopped, hstopped] at hok
    cases hok
  | none =>
    obtain ⟨counted, hcounted, heq⟩ := (h hstopped).takeChunk_eq environment chunk
    rw [heq] at hok ⊢
    rw [List.length_append, List.map_append]
    exact hcounted.writeEntries hok

theorem HasTaken.foldChunks (h : HasTaken rule lengths start folder all done lossy read progress)
    (environment : Environment) (reader : Reader) :
    HasTaken rule lengths start folder all done lossy (read ++ reader.lines)
        (reader.foldChunks chunkSize (BatchTask.takeChunk environment rule lengths) progress).1 ∧
      (reader.foldChunks chunkSize (BatchTask.takeChunk environment rule lengths) progress).2 =
        reader.readAll.2 := by
  have hsize : 0 < chunkSize := by decide
  exact Reader.foldChunks_invariant hsize
    (fun state read => HasTaken rule lengths start folder all done lossy read state)
    (fun _ _ chunk hstate => hstate.takeChunk environment chunk) h

theorem HasTaken.completeFile (h : HasTaken rule lengths start folder all done lossy read progress)
    (found : Found) (malformed : Nat) :
    HasTaken rule lengths start folder all (done ++ [found]) (lossy + malformed) read
      (completeFile found.size malformed progress) := by
  obtain ⟨partitions, store, statistics, heartbeat, chunks, stopped⟩ := progress
  intro hok
  cases stopped with
  | some fault => simp [BatchTask.completeFile] at hok
  | none =>
    have hrouted := h rfl
    exact ⟨hrouted.partitions, hrouted.tally.complete found malformed, rfl⟩

end Lines

section Files

-- What a file holds
def contentOf (store : Store) (found : Found) : ByteArray :=
  match store.read found.path with
  | .ok content => content
  | .error _ => ByteArray.empty

def readerOf (environment : Environment) (store : Store) (found : Found) : Reader :=
  Reader.ofBytes environment.guess (contentOf store found)

-- The lines of all files, one file after the other
def linesOf (environment : Environment) (store : Store) (files : List Found) :
    List (List Char) :=
  files.flatMap fun found => (readerOf environment store found).lines

def malformedIn (environment : Environment) (store : Store) (files : List Found) : Nat :=
  (files.map fun found => (readerOf environment store found).malformed).sum

-- Some of the files are done.
def HasDone (environment : Environment) (rule : Rule) (lengths : LengthRange) (start : Store)
    (folder : Path) (all done : List Found) (progress : Progress) : Prop :=
  HasTaken rule lengths start folder all done (malformedIn environment start done)
      (linesOf environment start done) progress ∧
    (progress.stopped = none → ∀ found ∈ done,
      start.read found.path = .ok (contentOf start found))

variable {environment : Environment} {rule : Rule} {lengths : LengthRange} {start : Store}
  {folder : Path} {all done : List Found} {progress : Progress}

-- The files of the lengths in the range are apart from the file.
def IsApart (lengths : LengthRange) (start : Store) (folder : Path) (found : Found) : Prop :=
  ∀ length place, lengths.contains length = true → start.placeOf? found.path = some place →
    start.placeOf? (partitionPath folder length) ≠ some place

-- A file that no password is written to is read as it was at the start.
theorem read_eq_ok_of_isApart {lines lossy : Nat} {read : List (List Char)}
    (h : HasRouted start folder all done lines lossy (read.map (route rule lengths)) progress)
    {found : Found} (hapart : IsApart lengths start folder found) {content : ByteArray}
    (hread : progress.store.read found.path = .ok content) :
    start.read found.path = .ok content := by
  refine h.partitions.addsFiles.read_eq_ok_of hread fun place hplace => ?_
  refine h.partitions.untouched place fun length writer hwriter heq => ?_
  have hrouted := (h.partitions.opened length).mpr (List.mem_map_of_mem hwriter)
  obtain ⟨hmin, hmax, -⟩ := mem_routes_iff.mp hrouted
  have hwritten := h.partitions.place length writer hwriter
  rw [heq] at hwritten
  exact hapart length place (contains_iff.mpr ⟨hmin, hmax⟩) hplace hwritten

theorem linesOf_concat (found : Found) :
    linesOf environment start (done ++ [found]) =
      linesOf environment start done ++ (readerOf environment start found).lines := by
  simp [linesOf]

theorem malformedIn_concat (found : Found) :
    malformedIn environment start (done ++ [found]) =
      malformedIn environment start done + (readerOf environment start found).malformed := by
  simp [malformedIn]

theorem lossy_readAll_readerOf (found : Found) :
    (readerOf environment start found).readAll.2.lossy =
      (readerOf environment start found).malformed := by
  rw [(Reader.readAll_eq_slices _).2]
  exact Nat.zero_add _

theorem HasDone.takeFile (h : HasDone environment rule lengths start folder all done progress)
    {found : Found} (hapart : IsApart lengths start folder found) :
    HasDone environment rule lengths start folder all (done ++ [found])
      (takeFile environment rule lengths progress found) := by
  obtain ⟨partitions, store, statistics, heartbeat, chunks, stopped⟩ := progress
  obtain ⟨htaken, hcontents⟩ := h
  cases stopped with
  | some fault => exact ⟨nofun, nofun⟩
  | none =>
    simp only [BatchTask.takeFile]
    cases hopen : Reader.openFileBy environment.guess store found.path with
    | error fault => exact ⟨nofun, nofun⟩
    | ok reader =>
      obtain ⟨content, hread, rfl⟩ := Corpus.openFileBy_eq_ok hopen
      have hstart := read_eq_ok_of_isApart (htaken rfl) hapart hread
      have hcontent : contentOf start found = content := by simp [contentOf, hstart]
      have hreader : Reader.ofBytes environment.guess content =
          readerOf environment start found := by
        rw [readerOf, hcontent]
      obtain ⟨hchunks, hlast⟩ := htaken.foldChunks environment (readerOf environment start found)
      rw [hreader]
      refine ⟨?_, fun _ other hother => ?_⟩
      · rw [linesOf_concat, malformedIn_concat, ← lossy_readAll_readerOf, ← hlast]
        exact hchunks.completeFile found _
      · cases List.mem_append.mp hother with
        | inl hdone => exact hcontents rfl other hdone
        | inr hlast =>
          rw [List.mem_singleton.mp hlast, hcontent]
          exact hstart

theorem HasDone.takeFiles (h : HasDone environment rule lengths start folder all done progress)
    {files : List Found} (hapart : ∀ found ∈ files, IsApart lengths start folder found) :
    HasDone environment rule lengths start folder all (done ++ files)
      (files.foldl (BatchTask.takeFile environment rule lengths) progress) := by
  induction files generalizing done progress with
  | nil => simpa using h
  | cons found files ih =>
    have hnext := ih (h.takeFile (hapart found (by simp)))
      fun other hother => hapart other (by simp [hother])
    rw [List.append_assoc] at hnext
    exact hnext

end Files

section Run

variable {environment : Environment} {rule : Rule} {task : BatchTask} {files : List Found}

-- The passwords are in the files of their lengths, and nothing else has changed.
structure HoldsPasswords (rule : Rule) (lengths : LengthRange) (folder : Path)
    (lines : List (List Char)) (start after : Store) : Prop where
  written : ∀ length, IsWritten rule lengths lines length →
    after.read (partitionPath folder length) = .ok (written (passwordsOf rule lines length))
  unwritten : ∀ length place, ¬ IsWritten rule lengths lines length →
    start.placeOf? (partitionPath folder length) = some place →
    after.kindAt? place = start.kindAt? place
  others : ∀ place, (∀ length, IsWritten rule lengths lines length →
    start.placeOf? (partitionPath folder length) ≠ some place) →
    after.kindAt? place = start.kindAt? place

theorem holdsPasswords_flush {lengths : LengthRange} {folder : Path} {lines : List (List Char)}
    {start store : Store} {partitions : Partitions}
    (h : Partitions.Holds start folder
      (· ∈ (lines.map (route rule lengths)).reduceOption.map (·.1))
      (lines.map (route rule lengths)).reduceOption partitions store) :
    HoldsPasswords rule lengths folder lines start (partitions.flush store).2 := by
  simp only [mem_routes_iff] at h
  obtain ⟨-, hfiles, hothers⟩ := h.flush
  refine ⟨fun length hwritten => ?_, fun length place hunwritten hplace => ?_, hothers⟩
  · rw [hfiles length hwritten, hwritten.share_eq]
  · refine hothers place fun other hwritten hother => ?_
    have hne : other ≠ length := by
      rintro rfl
      exact hunwritten hwritten
    exact Partitions.place_ne hplace hother hne rfl

-- At first nothing is done.
theorem hasDone_start (environment : Environment) (rule : Rule) (task : BatchTask)
    (files : List Found) (start : Store) :
    HasDone environment rule task.lengths start task.folder files []
      ⟨Partitions.ofFolder task.folder task.capacity, start, countFiles files, ⟨0⟩, 0, none⟩ := by
  refine ⟨fun _ => ⟨?_, tally_countFiles files, rfl⟩, fun _ _ hfound => by simp at hfound⟩
  simpa [linesOf] using Partitions.holds_ofFolder start task.folder task.capacity

theorem finish_eq_ok {progress : Progress} (h : (task.finish progress).result = .ok ()) :
    progress.stopped = none ∧
      (task.finish progress).store = (progress.partitions.flush progress.store).2 ∧
      (task.finish progress).statistics = progress.statistics := by
  obtain ⟨partitions, store, statistics, heartbeat, chunks, stopped⟩ := progress
  cases stopped with
  | none => exact ⟨rfl, rfl, rfl⟩
  | some fault => simp [finish] at h

theorem result_finish (task : BatchTask) {progress : Progress} (h : progress.stopped = none) :
    (task.finish progress).result = .ok () := by
  obtain ⟨partitions, store, statistics, heartbeat, chunks, stopped⟩ := progress
  obtain rfl : stopped = none := h
  rfl

-- What has been written is in the files also when the work has been stopped.
theorem finish_of_stopped (task : BatchTask) {progress : Progress} {fault : Fault}
    (h : progress.stopped = some fault) :
    (task.finish progress).result = .error (.storage fault) ∧
      (task.finish progress).store = (progress.partitions.flush progress.store).2 ∧
      (task.finish progress).statistics = progress.statistics := by
  obtain ⟨partitions, store, statistics, heartbeat, chunks, stopped⟩ := progress
  obtain rfl : stopped = some fault := h
  exact ⟨rfl, rfl, rfl⟩

-- The state in which the work on the files begins
def opened (task : BatchTask) (files : List Found) (store : Store) : Progress :=
  ⟨Partitions.ofFolder task.folder task.capacity, (store.ensureFolder task.folder).2,
    countFiles files, ⟨0⟩, 0, none⟩

-- Apart from what it tells, a run leaves what its files come to.
theorem runIn_eq_finish (environment : Environment) (rule : Rule) {store : Store}
    (hcollect : task.selection.collect store task.input = .ok files) (hsome : files ≠ [])
    (hfolder : (store.ensureFolder task.folder).1 = .ok ()) :
    ∃ notices, task.runIn environment rule store =
      { task.finish (files.foldl (takeFile environment rule task.lengths)
          (task.opened files store)) with notices } := by
  obtain ⟨file, rest, rfl⟩ := List.exists_cons_of_ne_nil hsome
  cases hensured : store.ensureFolder task.folder with
  | mk result start =>
    rw [hensured] at hfolder
    obtain rfl : result = .ok () := hfolder
    simp only [runIn, runOn, hcollect, hensured, opened]
    exact ⟨_, rfl⟩

theorem runOn_spec {store : Store}
    (hapart : ∀ found ∈ files,
      IsApart task.lengths (store.ensureFolder task.folder).2 task.folder found)
    (hok : (runOn environment rule task files store).result = .ok ()) :
    let start := (store.ensureFolder task.folder).2
    let lines := linesOf environment start files
    let outcome := runOn environment rule task files store
    (∀ found ∈ files, start.read found.path = .ok (contentOf start found)) ∧
      HoldsPasswords rule task.lengths task.folder lines start outcome.store ∧
      CountsPasswords rule task.lengths files lines (malformedIn environment start files)
        outcome.statistics := by
  unfold runOn at hok ⊢
  cases hfolder : store.ensureFolder task.folder with
  | mk result start =>
    cases result with
    | error fault => simp [hfolder] at hok
    | ok =>
      rw [hfolder] at hapart hok
      have hdone := (hasDone_start environment rule task files start).takeFiles hapart
      obtain ⟨hstopped, hstore, hstatistics⟩ := finish_eq_ok hok
      obtain ⟨htaken, hcontents⟩ := hdone
      have hrouted := htaken hstopped
      simp only [hstore, hstatistics]
      exact ⟨hcontents hstopped, holdsPasswords_flush hrouted.partitions,
        hrouted.tally.countsPasswords⟩

-- A run that succeeds leaves the passwords of all files in the files of their lengths, in the
-- order of the lines, and the counters agree with them.
theorem runIn_passwords {store : Store}
    (hcollect : task.selection.collect store task.input = .ok files) (hsome : files ≠ [])
    (hapart : ∀ found ∈ files,
      IsApart task.lengths (store.ensureFolder task.folder).2 task.folder found)
    (hok : (task.runIn environment rule store).result = .ok ()) :
    let start := (store.ensureFolder task.folder).2
    let lines := linesOf environment start files
    let outcome := task.runIn environment rule store
    store.MakesFolders start ∧
      (∀ found ∈ files, start.read found.path = .ok (contentOf start found)) ∧
      HoldsPasswords rule task.lengths task.folder lines start outcome.store ∧
      CountsPasswords rule task.lengths files lines (malformedIn environment start files)
        outcome.statistics := by
  obtain ⟨file, rest, rfl⟩ := List.exists_cons_of_ne_nil hsome
  unfold runIn at hok ⊢
  rw [hcollect] at hok ⊢
  exact ⟨Store.makesFolders_ensureFolder store task.folder, runOn_spec hapart hok⟩

theorem runIn_passwords_two_files :
    let environment : Environment := .serial fun _ => .utf8
    let rule : Rule := ⟨⟨.ascii, .none, 1, [0], false⟩, [.selectCharacters ⟨[0], false, false⟩]⟩
    let task : BatchTask :=
      ⟨⟨['.']⟩, ⟨['c']⟩, ⟨1, 2, by decide⟩, ⟨false, [['t']]⟩, 8192, true, false⟩
    let first := Store.empty.writeAt [['a', '.', 't']] ⟨#[0x78, 0x20, 0x79, 0x0A, 0x0D, 0x7A]⟩
    let store := first.writeAt [['b', '.', 't']] ⟨#[0x76, 0x20, 0x77]⟩
    let outcome := task.runIn environment rule store
    outcome.store.read (partitionPath task.folder 1) = .ok (written [['z']]) ∧
      outcome.store.read (partitionPath task.folder 2) =
        .ok (written [['x', 'y'], ['v', 'w']]) ∧
      outcome.statistics.lines = 4 ∧ outcome.statistics.written = 3 := by
  intro environment rule task first store outcome
  let start := (store.ensureFolder task.folder).2
  let files : List Found := [⟨⟨['.', '/', 'a', '.', 't']⟩, 6⟩, ⟨⟨['.', '/', 'b', '.', 't']⟩, 3⟩]
  have hcollect : task.selection.collect store task.input = .ok files := by decide +kernel
  have hapart : ∀ found ∈ files, IsApart task.lengths start task.folder found := by
    intro found hfound length place hlength hplace
    obtain ⟨hmin, hmax⟩ := contains_iff.mp hlength
    have hcases : length = 1 ∨ length = 2 := by
      change 1 ≤ length at hmin
      change length ≤ 2 at hmax
      omega
    rw [← hplace]
    simp only [files, List.mem_cons, List.not_mem_nil, or_false] at hfound
    obtain rfl | rfl := hcases <;> obtain rfl | rfl := hfound <;> decide +kernel
  have hok : (task.runIn environment rule store).result = .ok () := by decide +kernel
  have hlines : linesOf environment start files =
      [['x', ' ', 'y'], [], ['z'], ['v', ' ', 'w']] := by
    decide +kernel
  obtain ⟨-, -, hfiles, hcounts⟩ := runIn_passwords hcollect (by simp [files]) hapart hok
  have hone : IsWritten rule task.lengths (linesOf environment start files) 1 :=
    ⟨by decide, by decide, ['z'], by simp [hlines], by decide +kernel⟩
  have htwo : IsWritten rule task.lengths (linesOf environment start files) 2 :=
    ⟨by decide, by decide, ['v', ' ', 'w'], by simp [hlines], by decide +kernel⟩
  have hpasswords : [['x', ' ', 'y'], [], ['z'], ['v', ' ', 'w']].map rule.apply =
      [['x', 'y'], [], ['z'], ['v', 'w']] := by
    decide +kernel
  have hlengths (length : Nat) : passwordsOf rule (linesOf environment start files) length =
      [['x', 'y'], [], ['z'], ['v', 'w']].filter (passwordLength · = length) := by
    rw [passwordsOf, hlines, hpasswords]
  refine ⟨?_, ?_, ?_, ?_⟩
  · rw [hfiles.written 1 hone, hlengths]
    rfl
  · rw [hfiles.written 2 htwo, hlengths]
    rfl
  · rw [hcounts.lines, hlines]
    rfl
  · have hdropped : outcome.statistics.dropped = 1 := by
      rw [hcounts.dropped, hlines]
      decide +kernel
    have hsum := hcounts.written_add_dropped
    rw [hcounts.lines, hlines, hdropped] at hsum
    rw [← UInt64.add_sub_cancel outcome.statistics.written 1, hsum]
    rfl

end Run

end Acrostic.Run.BatchTask
