import Acrostic.Proofs.Run.Batch
import Acrostic.Proofs.Run.Numbering

namespace Acrostic.Run.BatchTask

open Corpus (Reader)
open Output (Partitions)
open Report (Heartbeat Statistics)
open Storage (Fault Path Store)

-- The work between two states, and the counts that its lines have been given, chunk by chunk. The
-- workers may have taken the steps of a chunk in any order that leaves what their pool has left.
inductive Signals (environment : Environment) (rule : Rule) (lengths : LengthRange)
    (first : Progress) : List UInt64 → Progress → Prop
  | start : Signals environment rule lengths first [] first
  | chunk {counts : List UInt64} {middle : Progress} {lines : List (List Char)}
      {outcomes : List (UInt64 × Option (Nat × List Char))} {after : Counted}
      (h : Signals environment rule lengths first counts middle) (hgoing : middle.stopped = none)
      (hworks : Works (lines.map fun line => numberedJob (route rule lengths line))
        (middle.statistics, middle.heartbeat) outcomes after)
      (hpool : (environment.pools middle.chunks).work
        (lines.map fun line => countingJob (route rule lengths line))
        (middle.statistics, middle.heartbeat) = (outcomes.map (·.2), after)) :
      Signals environment rule lengths first (counts ++ outcomes.map (·.1))
        (takeChunk environment rule lengths middle lines)
  | complete {counts : List UInt64} {middle : Progress} (size lossy : Nat)
      (h : Signals environment rule lengths first counts middle) :
      Signals environment rule lengths first counts (completeFile size lossy middle)
  | refuse {counts : List UInt64} {middle : Progress} (fault : Fault)
      (h : Signals environment rule lengths first counts middle) :
      Signals environment rule lengths first counts { middle with stopped := some fault }

section Spec

-- The lines that have been given the counts are counted and signalled.
structure Signalled (counts : List UInt64) (progress : Progress) : Prop where
  given : counts.Perm (countsAfter 0 counts.length)
  lines : progress.statistics.lines = UInt64.ofNat counts.length
  heartbeats : progress.statistics.heartbeats =
    UInt64.ofNat ((countsAfter 0 counts.length).countP Heartbeat.isDue)

variable {environment : Environment} {rule : Rule} {lengths : LengthRange}
  {first progress : Progress} {counts : List UInt64}

-- Writing and dropping leave the signals as they are.
theorem writeEntries_signals (entries : List (Option (Nat × List Char))) (progress : Progress) :
    (writeEntries entries progress).statistics.lines = progress.statistics.lines ∧
      (writeEntries entries progress).statistics.heartbeats =
        progress.statistics.heartbeats := by
  fun_induction writeEntries entries progress with
  | case1 progress => exact ⟨rfl, rfl⟩
  | case2 rest partitions store statistics heartbeat chunks stopped ih => exact ih
  | case3 => exact ⟨rfl, rfl⟩
  | case4 length password rest partitions store statistics heartbeat chunks stopped after made
      hwrite counted ih => exact ih

theorem Signalled.of_eq {other : Progress} (h : Signalled counts progress)
    (hlines : other.statistics.lines = progress.statistics.lines)
    (hheartbeats : other.statistics.heartbeats = progress.statistics.heartbeats) :
    Signalled counts other :=
  ⟨h.given, hlines.trans h.lines, hheartbeats.trans h.heartbeats⟩

theorem Signalled.takeChunk {lines : List (List Char)}
    {outcomes : List (UInt64 × Option (Nat × List Char))} {after : Counted}
    (h : Signalled counts progress) (hgoing : progress.stopped = none)
    (hworks : Works (lines.map fun line => numberedJob (route rule lengths line))
      (progress.statistics, progress.heartbeat) outcomes after)
    (hpool : (environment.pools progress.chunks).work
      (lines.map fun line => countingJob (route rule lengths line))
      (progress.statistics, progress.heartbeat) = (outcomes.map (·.2), after)) :
    Signalled (counts ++ outcomes.map (·.1))
      (takeChunk environment rule lengths progress lines) := by
  obtain ⟨partitions, store, statistics, heartbeat, chunks, stopped⟩ := progress
  obtain ⟨statisticsAfter, heartbeatAfter⟩ := after
  obtain rfl : stopped = none := hgoing
  have hlength : outcomes.length = lines.length := by simpa using hworks.length_eq
  have hends := ends_of_works hworks h.lines
  have hall : (counts ++ outcomes.map (·.1)).length = counts.length + lines.length := by
    simp [hlength]
  have hcounted : Signalled (counts ++ outcomes.map (·.1))
      ⟨partitions, store, statisticsAfter, heartbeatAfter, chunks + 1, none⟩ := by
    refine ⟨?_, ?_, ?_⟩
    · rw [hall, countsAfter_add, Nat.zero_add]
      exact h.given.append hends.counts
    · rw [hall]
      exact hends.total
    · rw [hall, countsAfter_add, Nat.zero_add, List.countP_append, UInt64.ofNat_add,
        ← h.heartbeats]
      simpa using hends.heartbeats
  simp only [BatchTask.takeChunk, hpool]
  exact hcounted.of_eq (writeEntries_signals _ _).1 (writeEntries_signals _ _).2

end Spec

section Run

variable {environment : Environment} {rule : Rule} {lengths : LengthRange}
  {first progress : Progress} {lines : Nat}

-- The work has given counts to its lines, to all of them unless it has been stopped.
def HasSignalled (environment : Environment) (rule : Rule) (lengths : LengthRange)
    (first : Progress) (lines : Nat) (progress : Progress) : Prop :=
  ∃ counts, Signals environment rule lengths first counts progress ∧
    (progress.stopped = none → counts.length = lines)

theorem HasSignalled.takeChunk (h : HasSignalled environment rule lengths first lines progress)
    (chunk : List (List Char)) :
    HasSignalled environment rule lengths first (lines + chunk.length)
      (takeChunk environment rule lengths progress chunk) := by
  obtain ⟨counts, hsignals, hlength⟩ := h
  cases hstopped : progress.stopped with
  | some fault =>
    rw [takeChunk_of_stopped hstopped]
    exact ⟨counts, hsignals, fun hgoing => by rw [hstopped] at hgoing; cases hgoing⟩
  | none =>
    let jobs := chunk.map fun line => numberedJob (route rule lengths line)
    have hjobs : jobs.map (Job.map Prod.snd) =
        chunk.map fun line => countingJob (route rule lengths line) := by
      simp [jobs, Function.comp_def, map_numberedJob]
    have hworks := (environment.pools progress.chunks).works (jobs.map (Job.map Prod.snd))
      (progress.statistics, progress.heartbeat)
    obtain ⟨outcomes, hnumbered, houtcomes⟩ := hworks.exists_of_map
    rw [hjobs] at hnumbered houtcomes
    have hlength' : outcomes.length = chunk.length := by
      simpa [jobs] using hnumbered.length_eq
    refine ⟨_, hsignals.chunk hstopped hnumbered (Prod.ext houtcomes rfl), fun _ => ?_⟩
    rw [List.length_append, hlength hstopped, List.length_map, hlength']

theorem HasSignalled.foldChunks (h : HasSignalled environment rule lengths first lines progress)
    (reader : Reader) :
    HasSignalled environment rule lengths first (lines + reader.lines.length)
      (reader.foldChunks chunkSize (BatchTask.takeChunk environment rule lengths) progress).1 := by
  have hsize : 0 < chunkSize := by decide
  have hstep (state : Progress) (read chunk : List (List Char))
      (hstate : HasSignalled environment rule lengths first (lines + read.length) state) :
      HasSignalled environment rule lengths first (lines + (read ++ chunk).length)
        (BatchTask.takeChunk environment rule lengths state chunk) := by
    rw [List.length_append, ← Nat.add_assoc]
    exact hstate.takeChunk chunk
  have hstart : HasSignalled environment rule lengths first
      (lines + ([] : List (List Char)).length) progress := h
  exact (Reader.foldChunks_invariant hsize
    (fun state read => HasSignalled environment rule lengths first (lines + read.length) state)
    hstep hstart).1

theorem HasSignalled.completeFile
    (h : HasSignalled environment rule lengths first lines progress) (size lossy : Nat) :
    HasSignalled environment rule lengths first lines (completeFile size lossy progress) := by
  obtain ⟨counts, hsignals, hlength⟩ := h
  refine ⟨counts, hsignals.complete size lossy, fun hgoing => hlength ?_⟩
  obtain ⟨partitions, store, statistics, heartbeat, chunks, stopped⟩ := progress
  cases stopped with
  | none => rfl
  | some fault => cases hgoing

theorem HasSignalled.takeFile (h : HasSignalled environment rule lengths first lines progress)
    (found : Found) :
    HasSignalled environment rule lengths first
      (lines + (readerOf environment progress.store found).lines.length)
      (takeFile environment rule lengths progress found) := by
  obtain ⟨partitions, store, statistics, heartbeat, chunks, stopped⟩ := progress
  cases stopped with
  | some fault =>
    obtain ⟨counts, hsignals, -⟩ := h
    exact ⟨counts, hsignals, fun hgoing => by cases hgoing⟩
  | none =>
    simp only [BatchTask.takeFile]
    cases hopen : Reader.openFileBy environment.guess store found.path with
    | error fault =>
      obtain ⟨counts, hsignals, -⟩ := h
      exact ⟨counts, hsignals.refuse fault, fun hgoing => by cases hgoing⟩
    | ok reader =>
      obtain ⟨content, hread, rfl⟩ := Corpus.openFileBy_eq_ok hopen
      have hreader : Reader.ofBytes environment.guess content =
          readerOf environment store found := by
        simp [readerOf, contentOf, hread]
      rw [hreader]
      exact (h.foldChunks (readerOf environment store found)).completeFile _ _

variable {all done : List Found} {start : Store} {folder : Path}

theorem HasSignalled.takeFiles (h : HasSignalled environment rule lengths first lines progress)
    (files : List Found) :
    ∃ total, HasSignalled environment rule lengths first total
      (files.foldl (BatchTask.takeFile environment rule lengths) progress) := by
  induction files generalizing lines progress with
  | nil => exact ⟨lines, h⟩
  | cons found files ih => exact ih (h.takeFile found)

end Run

end Acrostic.Run.BatchTask
