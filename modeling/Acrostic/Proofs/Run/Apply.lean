import Acrostic.Proofs.Corpus.Detection
import Acrostic.Proofs.Output.Writer
import Acrostic.Proofs.Run.Workers
import Acrostic.Run.Apply

namespace Acrostic.Run.ApplyTask

open Corpus (Encoding Reader)
open Output (Writer written written_append written_singleton)
open Report (Statistics)
open Storage (Path Place Store)

-- What has been done when the passwords are written: the file of the writer has them, and nothing
-- else has changed since the start.
structure HasWritten (start : Store) (place : Place) (statistics : Statistics)
    (passwords : List (List Char)) (progress : Progress) : Prop where
  writer : progress.writer.place = place
  holds : progress.writer.Holds progress.store (written passwords)
  changesOnly : start.ChangesOnly place progress.store
  statistics : progress.statistics = statistics

section Step

variable {start : Store} {place : Place} {statistics : Statistics}
  {passwords : List (List Char)} {progress : Progress}

theorem HasWritten.writePassword (h : HasWritten start place statistics passwords progress)
    (password : List Char) :
    HasWritten start place statistics (passwords ++ [password])
      (writePassword progress password) := by
  obtain ⟨pending, hwriter, hholds, honly⟩ := Writer.writeLine_spec h.holds password
  rw [h.writer] at honly
  refine ⟨?_, ?_, h.changesOnly.trans honly, h.statistics⟩
  · simp only [ApplyTask.writePassword, hwriter]
    exact h.writer
  · rw [written_append, written_singleton]
    exact hholds

theorem HasWritten.writeAll (h : HasWritten start place statistics passwords progress)
    (more : List (List Char)) :
    HasWritten start place statistics (passwords ++ more)
      (more.foldl ApplyTask.writePassword progress) := by
  induction more generalizing passwords progress with
  | nil => simpa using h
  | cons password more ih =>
    have hnext := ih (h.writePassword password)
    rw [List.append_assoc] at hnext
    exact hnext

end Step

-- The counts of the lines, each of which gives a password
def counted (statistics : Statistics) (count : Nat) : Statistics :=
  (statistics.addLines (UInt64.ofNat count)).addWritten (UInt64.ofNat count)

theorem counted_zero (statistics : Statistics) : counted statistics 0 = statistics := by
  simp [counted, Statistics.addLines, Statistics.addWritten]

theorem counted_add (statistics : Statistics) (first second : Nat) :
    counted (counted statistics first) second = counted statistics (first + second) := by
  simp [counted, Statistics.addLines, Statistics.addWritten, UInt64.add_assoc]

-- The passwords of a chunk come out in the order of its lines, whoever made them.
theorem takeChunk_eq (environment : Environment) (rule : Rule) (progress : Progress)
    (lines : List (List Char)) :
    takeChunk environment rule progress lines =
      countChunk ((lines.map rule.apply).foldl writePassword progress)
        (UInt64.ofNat lines.length) := by
  have hpasswords := (environment.pools progress.chunks).results_eq
    (fun line => .done (rule.apply line)) lines ()
  have hjobs : lines.map (passwordJob rule) = lines.map fun line => .done (rule.apply line) := rfl
  simp only [takeChunk, hjobs, hpasswords, List.length_map]

section Lines

variable {start : Store} {place : Place} {statistics : Statistics} {rule : Rule}
  {read : List (List Char)} {progress : Progress}

-- The lines that have been read have each given their password.
def HasTaken (rule : Rule) (start : Store) (place : Place) (statistics : Statistics)
    (read : List (List Char)) (progress : Progress) : Prop :=
  HasWritten start place (counted statistics read.length) (read.map rule.apply) progress

theorem HasTaken.takeChunk (h : HasTaken rule start place statistics read progress)
    (environment : Environment) (chunk : List (List Char)) :
    HasTaken rule start place statistics (read ++ chunk)
      (takeChunk environment rule progress chunk) := by
  have hall := HasWritten.writeAll h (chunk.map rule.apply)
  rw [takeChunk_eq, HasTaken, List.map_append, List.length_append, ← counted_add,
    ← hall.statistics]
  exact ⟨hall.writer, hall.holds, hall.changesOnly, rfl⟩

-- The passwords of all lines come out in the order of the lines.
theorem HasTaken.foldChunks (h : HasTaken rule start place statistics read progress)
    (environment : Environment) (reader : Reader) :
    HasTaken rule start place statistics (read ++ reader.lines)
        (reader.foldChunks chunkSize (ApplyTask.takeChunk environment rule) progress).1 ∧
      (reader.foldChunks chunkSize (ApplyTask.takeChunk environment rule) progress).2 =
        reader.readAll.2 := by
  have hsize : 0 < chunkSize := by decide
  exact Reader.foldChunks_invariant hsize
    (fun state read => HasTaken rule start place statistics read state)
    (fun _ _ chunk hstate => hstate.takeChunk environment chunk) h

-- At first no line has been read.
theorem HasWritten.hasTaken (h : HasWritten start place statistics [] progress) (rule : Rule) :
    HasTaken rule start place statistics [] progress := by
  rw [HasTaken, List.length_nil, counted_zero]
  exact h

end Lines

-- What a run leaves behind when the file has been opened
theorem finish_spec {start : Store} {place : Place} (environment : Environment) (rule : Rule)
    (task : ApplyTask) (reader : Reader) (progress : Progress)
    (h : HasWritten start place progress.statistics [] progress) :
    let outcome := finish environment rule task reader progress
    outcome.store.kindAt? place = some (.file (written (reader.lines.map rule.apply))) ∧
      start.ChangesOnly place outcome.store ∧
      outcome.statistics = ((counted progress.statistics reader.lines.length).addLossy
        (UInt64.ofNat reader.readAll.2.lossy)).completeFile (UInt64.ofNat reader.size) := by
  obtain ⟨hwritten, hreader⟩ := (h.hasTaken rule).foldChunks environment reader
  rw [List.nil_append, HasTaken] at hwritten
  unfold finish
  generalize reader.foldChunks chunkSize (ApplyTask.takeChunk environment rule) progress = reached
    at hwritten hreader ⊢
  obtain ⟨state, last⟩ := reached
  obtain ⟨-, hflushed, honly⟩ := Writer.flush_spec hwritten.holds
  rw [hwritten.writer] at hflushed honly
  refine ⟨hflushed, hwritten.changesOnly.trans honly, ?_⟩
  rw [← hwritten.statistics, ← hreader]

-- A run succeeds when the input is read and the output is made.
theorem runIn_eq_ok {environment : Environment} {rule : Rule} {task : ApplyTask} {store : Store}
    (hok : (task.runIn environment rule store).result = .ok ()) :
    ∃ content writer opened, store.read task.input = .ok content ∧
      Writer.create store task.output task.capacity = .ok (writer, opened) ∧
      let reader := Reader.ofBytes environment.guess content
      let outcome := finish environment rule task reader
        ⟨writer, opened, Statistics.zero.addFile (UInt64.ofNat reader.size), 0⟩
      (task.runIn environment rule store).store = outcome.store ∧
        (task.runIn environment rule store).statistics = outcome.statistics := by
  unfold runIn at hok ⊢
  cases hopen : Reader.openFileBy environment.guess store task.input with
  | error fault => simp [hopen] at hok
  | ok reader =>
    obtain ⟨content, hread, rfl⟩ := Corpus.openFileBy_eq_ok hopen
    cases hcreate : Writer.create store task.output task.capacity with
    | error fault => simp [hopen, hcreate] at hok
    | ok created => exact ⟨content, created.1, created.2, hread, rfl, rfl, rfl⟩

-- Whether there is a file to read from and one that can be written to
def CanStart (task : ApplyTask) (store : Store) : Prop :=
  (∃ content, store.read task.input = .ok content) ∧
    ∃ created, store.create task.output = .ok created

-- A run that can start succeeds, and any other run changes nothing.
theorem runIn_cases (environment : Environment) (rule : Rule) (task : ApplyTask) (store : Store) :
    task.CanStart store ∧ (task.runIn environment rule store).result = .ok () ∨
      ¬ task.CanStart store ∧ (∃ failure, (task.runIn environment rule store).result =
        .error failure) ∧ (task.runIn environment rule store).store = store := by
  unfold runIn
  cases hopen : Reader.openFileBy environment.guess store task.input with
  | error fault =>
    right
    refine ⟨fun hstart => ?_, ⟨_, rfl⟩, rfl⟩
    obtain ⟨content, hread⟩ := hstart.1
    simp [Reader.openFileBy, hread, Except.map] at hopen
  | ok reader =>
    obtain ⟨content, hread, -⟩ := Corpus.openFileBy_eq_ok hopen
    cases hcreate : store.create task.output with
    | error fault =>
      right
      rw [Writer.create, hcreate]
      refine ⟨fun hstart => ?_, ⟨_, rfl⟩, rfl⟩
      obtain ⟨created, hcreated⟩ := hstart.2
      simp [hcreate] at hcreated
    | ok created =>
      left
      rw [Writer.create, hcreate]
      exact ⟨⟨⟨content, hread⟩, created, hcreate⟩, rfl⟩

-- The file of the passwords is all that a run that succeeds changes.
theorem runIn_output {environment : Environment} {rule : Rule} {task : ApplyTask} {store : Store}
    (hok : (task.runIn environment rule store).result = .ok ()) :
    ∃ content place, store.read task.input = .ok content ∧
      store.placeOf? task.output = some place ∧
      let outcome := task.runIn environment rule store
      store.ChangesOnly place outcome.store ∧
      outcome.store.read task.output =
        .ok (written ((Reader.ofBytes environment.guess content).lines.map rule.apply)) := by
  obtain ⟨content, writer, opened, hread, hcreate, hstore, -⟩ := runIn_eq_ok hok
  obtain ⟨hseparator, hplace, -, -, hholds, honly⟩ := Writer.create_eq_ok hcreate
  obtain ⟨hfile, hchanges, -⟩ := finish_spec environment rule task
    (Reader.ofBytes environment.guess content) ⟨writer, opened, _, 0⟩ ⟨rfl, hholds, honly, rfl⟩
  refine ⟨content, writer.place, hread, hplace, ?_, ?_⟩
  · rw [hstore]
    exact hchanges
  · rw [hstore, Store.read_eq_ok]
    exact ⟨hseparator, _, hchanges.placeOf? hplace, hfile⟩

-- A run that succeeds leaves a password for each line of the input, in the order of the lines, and
-- changes nothing else.
theorem runIn_spec {environment : Environment} {rule : Rule} {task : ApplyTask} {store : Store}
    (hapart : store.placeOf? task.output ≠ store.placeOf? task.input)
    (hok : (task.runIn environment rule store).result = .ok ()) :
    ∃ content, store.read task.input = .ok content ∧
      let reader := Reader.ofBytes environment.guess content
      let outcome := task.runIn environment rule store
      outcome.store.read task.output = .ok (written (reader.lines.map rule.apply)) ∧
      outcome.store.read task.input = .ok content ∧
      (∀ place, store.placeOf? task.output ≠ some place →
        outcome.store.kindAt? place = store.kindAt? place) ∧
      outcome.statistics = { Statistics.zero with
        files := 1
        filesDone := 1
        bytes := UInt64.ofNat content.size
        bytesDone := UInt64.ofNat content.size
        lines := UInt64.ofNat reader.lines.length
        written := UInt64.ofNat reader.lines.length
        lossy := UInt64.ofNat reader.malformed } := by
  obtain ⟨content, writer, opened, hread, hcreate, hstore, hstatistics⟩ := runIn_eq_ok hok
  obtain ⟨hseparator, hplace, -, -, hholds, honly⟩ := Writer.create_eq_ok hcreate
  obtain ⟨hfile, hchanges, hcounts⟩ := finish_spec environment rule task
    (Reader.ofBytes environment.guess content) ⟨writer, opened, _, 0⟩ ⟨rfl, hholds, honly, rfl⟩
  refine ⟨content, hread, ?_, ?_, ?_, ?_⟩
  · rw [hstore, Store.read_eq_ok]
    exact ⟨hseparator, _, hchanges.placeOf? hplace, hfile⟩
  · rw [hstore]
    refine hchanges.read_eq_ok hread fun place hinput => ?_
    apply hchanges.kindAt?
    rintro rfl
    exact hapart (hplace.trans hinput.symm)
  · intro place hother
    rw [hstore]
    apply hchanges.kindAt?
    rintro rfl
    exact hother hplace
  · rw [hstatistics, hcounts]
    have hlossy := (Reader.readAll_eq_slices (Reader.ofBytes environment.guess content)).2
    have hstart : (Reader.ofBytes environment.guess content).lossy = 0 := rfl
    have hsize : (Reader.ofBytes environment.guess content).size = content.size := rfl
    rw [hlossy, hstart, Nat.zero_add, hsize]
    simp [counted, Statistics.addLines, Statistics.addWritten, Statistics.addLossy,
      Statistics.completeFile, Statistics.addFile, Statistics.zero]

-- The letters of windows-1251 from А to я, and ASCII
def cyrillic : Encoding :=
  .other "windows-1251" fun bytes => bytes.map fun byte =>
    some (Char.ofNat (if byte < 0xC0 then byte.toNat else 0x350 + byte.toNat))

theorem runIn_spec_cyrillic :
    let environment : Environment := .serial fun _ => cyrillic
    let rule : Rule := ⟨⟨.ascii, .none, 1, [0], false⟩, [.selectCharacters ⟨[0], false, false⟩]⟩
    let task : ApplyTask := ⟨⟨['a']⟩, ⟨['b']⟩, 8192, true, false⟩
    let store := Store.empty.writeAt [['a']] ⟨#[0xCF, 0xF0, 0xE8, 0xE2, 0xE5, 0xF2, 0x0A]⟩
    let outcome := task.runIn environment rule store
    outcome.store.read task.output =
        .ok (written [rule.apply ['П', 'р', 'и', 'в', 'е', 'т']]) ∧
      outcome.statistics.lines = 1 ∧ outcome.statistics.lossy = 0 := by
  intro environment rule task store outcome
  have hapart : store.placeOf? task.output ≠ store.placeOf? task.input := by decide
  have hstart : task.CanStart store := ⟨⟨_, rfl⟩, _, rfl⟩
  have hok : (task.runIn environment rule store).result = .ok () :=
    ((runIn_cases environment rule task store).resolve_right (·.1 hstart)).2
  obtain ⟨content, hread, houtput, -, -, hstatistics⟩ := runIn_spec hapart hok
  obtain rfl : ⟨#[0xCF, 0xF0, 0xE8, 0xE2, 0xE5, 0xF2, 0x0A]⟩ = content :=
    Except.ok.inj (show store.read task.input = .ok content from hread)
  let reader := Reader.ofBytes environment.guess ⟨#[0xCF, 0xF0, 0xE8, 0xE2, 0xE5, 0xF2, 0x0A]⟩
  have hlines : reader.lines = [['П', 'р', 'и', 'в', 'е', 'т']] := by decide
  have hmalformed : reader.malformed = 0 := by decide +kernel
  rw [hlines] at houtput hstatistics
  rw [hmalformed] at hstatistics
  refine ⟨houtput, ?_, ?_⟩
  · rw [hstatistics]
    rfl
  · rw [hstatistics]
    rfl

end Acrostic.Run.ApplyTask
