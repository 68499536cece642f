import Acrostic.CommandLine.Invocation
import Acrostic.Proofs.Attempt
import Acrostic.Proofs.Run.Collection
import Mathlib.Data.List.TakeWhile

namespace Acrostic.CommandLine

open Run (BatchTask Environment)
open Storage (Path Store)

-- Between two commas of the text stands the extension in any case, with white space around it and
-- dots in front of it.
def ListsExtension (text extension : List Char) : Prop :=
  extension ≠ [] ∧ ∃ item ∈ text.splitOn ',', ∃ dots given,
    Text.trim item = List.replicate dots '.' ++ given ∧ given.head? ≠ some '.' ∧
      Unicode.lowercase given = extension

theorem dropWhile_dots_eq_iff {text given : List Char} :
    text.dropWhile (· == '.') = given ↔
      ∃ dots, text = List.replicate dots '.' ++ given ∧ given.head? ≠ some '.' := by
  constructor
  · rintro rfl
    have hdots : text.takeWhile (· == '.') =
        List.replicate (text.takeWhile (· == '.')).length '.' :=
      List.eq_replicate_iff.mpr ⟨rfl, fun c hc => by simpa using List.mem_takeWhile_imp hc⟩
    refine ⟨(text.takeWhile (· == '.')).length, ?_, fun hhead => ?_⟩
    · rw [← hdots, List.takeWhile_append_dropWhile]
    · have hnot := List.head?_dropWhile_not (· == '.') text
      simp [hhead] at hnot
  · rintro ⟨dots, rfl, hhead⟩
    rw [List.dropWhile_append_of_pos (by simp)]
    cases given with
    | nil => rfl
    | cons c rest => simpa using hhead

theorem mem_splitExtensions_iff {text extension : List Char} :
    extension ∈ splitExtensions text ↔ ListsExtension text extension := by
  simp only [splitExtensions, List.mem_filter, List.mem_map, ListsExtension, Bool.not_eq_true',
    List.isEmpty_eq_false_iff, ne_eq]
  rw [and_comm]
  refine and_congr_right fun _ => exists_congr fun item => and_congr_right fun _ => ?_
  constructor
  · intro hlower
    obtain ⟨dots, htrim, hhead⟩ := dropWhile_dots_eq_iff.mp
      (show (Text.trim item).dropWhile (· == '.') = _ from rfl)
    exact ⟨dots, _, htrim, hhead, hlower⟩
  · rintro ⟨dots, given, htrim, hhead, hlower⟩
    rw [dropWhile_dots_eq_iff.mpr ⟨dots, htrim, hhead⟩]
    exact hlower

-- What a command line says about the files of the corpus
theorem selection_of_batchTask {invocation : Invocation} {task : BatchTask} {input output : Path}
    {minLength maxLength : Nat} {recursive : Bool} {text : List Char}
    (hcommand : invocation.command = .batch input output minLength maxLength recursive text)
    (htask : invocation.batchTask = .ok task) :
    task.input = input ∧ task.selection = ⟨recursive, splitExtensions text⟩ := by
  simp only [Invocation.batchTask, hcommand, Attempt.bind_eq_ok_iff] at htask
  obtain ⟨lengths, -, capacity, -, htask⟩ := htask
  obtain rfl := Except.ok.inj htask
  exact ⟨rfl, by rw [Invocation.extensions, hcommand]⟩

-- The corpus has exactly the files that are asked for, in the order of the walk, and a run counts
-- them, whatever becomes of it.
theorem batch_collects (environment : Environment) (rule : Rule) (task : BatchTask)
    (store : Store) :
    (∀ content, store.look task.input = .ok (.file content) →
      task.selection.collect store task.input = .ok [⟨task.input, content.size⟩]) ∧
    (∀ inside, store.look task.input = .ok (.folder inside) →
      ∃ files, task.selection.CollectsFolder store task.input inside files) ∧
    (∀ found, task.selection.collect store task.input = .ok found →
      (task.runIn environment rule store).statistics.files = UInt64.ofNat found.length ∧
        (task.runIn environment rule store).statistics.bytes =
          UInt64.ofNat (found.map (·.size)).sum) ∧
    (∀ (invocation : Invocation) input output minLength maxLength recursive text,
      invocation.command = .batch input output minLength maxLength recursive text →
      invocation.batchTask = .ok task →
      task.input = input ∧ task.selection.recursive = recursive ∧
        ∀ extension, extension ∈ task.selection.extensions ↔ ListsExtension text extension) := by
  refine ⟨fun content h => ?_, fun inside h => ?_, fun found h => ?_, ?_⟩
  · rw [Run.Selection.collect, h]
  · exact ⟨_, Run.Selection.collectsFolder_taken h⟩
  · exact BatchTask.runIn_totals h environment rule
  · intro invocation input output minLength maxLength recursive text hcommand htask
    obtain ⟨hinput, hselection⟩ := selection_of_batchTask hcommand htask
    rw [hselection]
    exact ⟨hinput, rfl, fun extension => mem_splitExtensions_iff⟩

-- A name that only starts with a dot has no extension, whereas the name of a folder does not matter
-- to the files in it.
theorem batch_collects_nested :
    let environment : Environment := .serial fun _ => .utf8
    let rule : Rule := ⟨⟨.ascii, .none, 1, [0], false⟩, [.selectCharacters ⟨[0], false, false⟩]⟩
    let task : BatchTask :=
      ⟨⟨['.']⟩, ⟨['o']⟩, ⟨1, 2, by decide⟩, ⟨true, [['t']]⟩, 8192, true, false⟩
    let hidden := Store.empty.writeAt [['.', 't']] ⟨#[0x78]⟩
    let store := (hidden.makeFolderAt [['c', '.', 'd']]).writeAt
      [['c', '.', 'd'], ['e', '.', 'T']] ⟨#[0x79, 0x7A]⟩
    (∃ files, task.selection.CollectsFolder store task.input store.tree files ∧
      ([['c', '.', 'd'], ['e', '.', 'T']], ⟨#[0x79, 0x7A]⟩) ∈ files ∧
      ∀ content, ([['.', 't']], content) ∉ files) ∧
    (task.runIn environment rule store).statistics.bytes = 2 := by
  intro environment rule task hidden store
  obtain ⟨-, hfolder, htotals, -⟩ := batch_collects environment rule task store
  obtain ⟨files, hfiles⟩ := hfolder store.tree rfl
  have hcollect : task.selection.collect store task.input =
      .ok [⟨⟨['.', '/', 'c', '.', 'd', '/', 'e', '.', 'T']⟩, 2⟩] := by
    decide +kernel
  refine ⟨⟨files, hfiles, ?_, fun content hmem => ?_⟩, (htotals _ hcollect).2⟩
  · refine (hfiles.mem_iff _ _).mpr ⟨rfl, ⟨.inl rfl, ['e', '.', 'T'], ['T'], rfl, ?_, ?_⟩, ?_⟩
    · exact Path.extension?_eq_some_iff.mp rfl
    · decide +kernel
    · decide +kernel
  · obtain ⟨-, hwants, -⟩ := (hfiles.mem_iff _ _).mp hmem
    obtain ⟨name, extension, hname, hextension, -⟩ := hwants.extension
    obtain rfl : ['.', 't'] = name := Option.some.inj hname
    simp [← Path.extension?_eq_some_iff, Path.extension?] at hextension

end Acrostic.CommandLine
