import Acrostic.CommandLine.Execution
import Acrostic.Proofs.Run.Apply

namespace Acrostic

open Corpus (Reader)
open Output (written)
open Run (ApplyTask BatchTask Environment Failure)
open Storage (Path Store)

-- A corpus that is not there leaves nothing to be done.
theorem Run.BatchTask.runIn_of_missing {task : BatchTask} {store : Store}
    (h : store.contains task.input = false) (environment : Environment) (rule : Rule) :
    (∃ failure, (task.runIn environment rule store).result = .error failure) ∧
      (task.runIn environment rule store).store = store := by
  unfold Store.contains at h
  unfold runIn Run.Selection.collect
  cases hlook : store.look task.input with
  | error fault => exact ⟨⟨_, rfl⟩, rfl⟩
  | ok entry => simp [hlook] at h

namespace CommandLine

section Answer

variable {before : List Report.Notice} {outcome : Run.Outcome}

theorem Answer.exit_of_ok (h : outcome.result = .ok ()) : (ofOutcome before outcome).exit = 0 := by
  simp [exit, ofOutcome, h]

theorem Answer.exit_of_error {failure : Failure} (h : outcome.result = .error failure) :
    (ofOutcome before outcome).exit = 1 := by
  simp [exit, ofOutcome, h, Complaint.exit]

end Answer

namespace Invocation

-- Whether the fields and the dictionary of the command make the rule
def Makes (invocation : Invocation) (store : Store) (rule : Rule) : Prop :=
  ∃ config, invocation.ruleConfig = .ok config ∧ invocation.rule config store = .ok rule

def HasCapacity (invocation : Invocation) : Prop :=
  ∃ capacity, invocation.capacity = .ok capacity

-- Whether everything is there that the command needs to begin
def IsReady (invocation : Invocation) (store : Store) : Prop :=
  (∃ rule, invocation.Makes store rule) ∧
    match invocation.command with
    | .apply input output =>
      invocation.HasCapacity ∧ (∃ content, store.read input = .ok content) ∧
        ∃ created, store.create output = .ok created
    | .batch input _ minLength maxLength _ _ =>
      minLength ≤ maxLength ∧ invocation.HasCapacity ∧ store.contains input = true
    | .steps _ => True

section Run

variable (environment : Environment) (processors : Nat) (store : Store)

-- Nothing is done without a rule, and with one it is the command alone that does something.
theorem runIn_cases (invocation : Invocation) :
    (∃ rule before, invocation.Makes store rule ∧
        invocation.runIn environment processors store =
          invocation.runCommand environment rule store before) ∨
      (¬ ∃ rule, invocation.Makes store rule) ∧
        (invocation.runIn environment processors store).exit = 1 ∧
        (invocation.runIn environment processors store).store = store := by
  unfold runIn
  cases hconfig : invocation.ruleConfig with
  | error error =>
    right
    refine ⟨fun hmade => ?_, rfl, rfl⟩
    obtain ⟨rule, config, hfound, -⟩ := hmade
    simp [hconfig] at hfound
  | ok config =>
    dsimp only
    cases hrule : invocation.rule config store with
    | error error =>
      right
      refine ⟨fun hmade => ?_, rfl, rfl⟩
      obtain ⟨rule, found, hfound, hfoundRule⟩ := hmade
      obtain rfl : config = found := Except.ok.inj (hconfig.symm.trans hfound)
      simp [hrule] at hfoundRule
    | ok rule => exact .inl ⟨rule, _, ⟨config, hconfig, hrule⟩, rfl⟩

variable {invocation : Invocation}

-- What the steps of a rule show is all that they do.
theorem store_runIn_steps {phrase : List Char} (h : invocation.command = .steps phrase) :
    (invocation.runIn environment processors store).store = store := by
  obtain ⟨rule, before, -, hrun⟩ | ⟨-, -, hstore⟩ :=
    runIn_cases environment processors store invocation
  · rw [hrun, runCommand, h]
  · exact hstore

theorem applyTask_eq {input output : Path} (h : invocation.command = .apply input output) :
    invocation.applyTask = invocation.capacity.map fun capacity =>
      ⟨input, output, capacity, invocation.quiet, invocation.verbose⟩ := by
  rw [applyTask, h]
  cases invocation.capacity <;> rfl

-- All that can be wrong with such a command shows before the output is made.
theorem runIn_apply {input output : Path} (h : invocation.command = .apply input output) :
    (invocation.IsReady store ∧ (invocation.runIn environment processors store).exit = 0 ∧
        (∃ place, store.placeOf? output = some place ∧
          store.ChangesOnly place (invocation.runIn environment processors store).store) ∧
        ∃ rule reader, invocation.Makes store rule ∧
          Reader.openFileBy environment.guess store input = .ok reader ∧
          (invocation.runIn environment processors store).store.read output =
            .ok (written (reader.lines.map rule.apply))) ∨
      ¬ invocation.IsReady store ∧ (invocation.runIn environment processors store).exit = 1 ∧
        (invocation.runIn environment processors store).store = store := by
  unfold IsReady
  rw [h]
  dsimp only
  obtain ⟨rule, before, hrule, hrun⟩ | ⟨hnone, hexit, hstore⟩ :=
    runIn_cases environment processors store invocation
  · rw [hrun, runCommand, h]
    dsimp only
    rw [applyTask_eq h]
    cases hcapacity : invocation.capacity with
    | error failure =>
      right
      refine ⟨fun hready => ?_, rfl, rfl⟩
      obtain ⟨-, ⟨capacity, hfound⟩, -⟩ := hready
      simp [hcapacity] at hfound
    | ok capacity =>
      let task : ApplyTask := ⟨input, output, capacity, invocation.quiet, invocation.verbose⟩
      obtain ⟨hstart, hok⟩ | ⟨hnone, ⟨failure, herror⟩, hstore⟩ :=
        ApplyTask.runIn_cases environment rule task store
      · left
        obtain ⟨content, place, hinput, hplace, hchanges, houtput⟩ := ApplyTask.runIn_output hok
        have hopen : Reader.openFileBy environment.guess store input =
            .ok (Reader.ofBytes environment.guess content) := by
          rw [Reader.openFileBy, hinput]
          rfl
        exact ⟨⟨⟨rule, hrule⟩, ⟨capacity, hcapacity⟩, hstart⟩, Answer.exit_of_ok hok,
          ⟨place, hplace, hchanges⟩, rule, _, hrule, hopen, houtput⟩
      · right
        exact ⟨fun hready => hnone hready.2.2, Answer.exit_of_error herror, hstore⟩
  · exact .inr ⟨fun hready => hnone hready.1, hexit, hstore⟩

theorem batchTask_eq {input output : Path} {minLength maxLength : Nat} {recursive : Bool}
    {extensions : List Char}
    (h : invocation.command = .batch input output minLength maxLength recursive extensions) :
    (∃ failure, invocation.batchTask = .error failure) ∨
      ∃ task, invocation.batchTask = .ok task ∧ task.input = input ∧ minLength ≤ maxLength ∧
        invocation.HasCapacity := by
  unfold batchTask Run.lengthRange LengthRange.ofBounds?
  rw [h]
  dsimp only
  split_ifs with hlengths
  · cases hcapacity : invocation.capacity with
    | error failure => exact .inl ⟨failure, rfl⟩
    | ok capacity => exact .inr ⟨_, rfl, rfl, hlengths, capacity, hcapacity⟩
  · exact .inl ⟨_, rfl⟩

-- What is wrong with such a command before its first file is opened shows before the folder of
-- the output is made.
theorem runIn_batch {input output : Path} {minLength maxLength : Nat} {recursive : Bool}
    {extensions : List Char}
    (h : invocation.command = .batch input output minLength maxLength recursive extensions)
    (hready : ¬ invocation.IsReady store) :
    (invocation.runIn environment processors store).exit = 1 ∧
      (invocation.runIn environment processors store).store = store := by
  unfold IsReady at hready
  rw [h] at hready
  dsimp only at hready
  obtain ⟨rule, before, hrule, hrun⟩ | ⟨-, hexit, hstore⟩ :=
    runIn_cases environment processors store invocation
  · rw [hrun, runCommand, h]
    dsimp only
    obtain ⟨failure, herror⟩ | ⟨task, htask, rfl, hlengths, hcapacity⟩ := batchTask_eq h
    · rw [herror]
      exact ⟨rfl, rfl⟩
    · have hmissing : store.contains task.input = false := by
        simpa using fun hthere => hready ⟨⟨rule, hrule⟩, hlengths, hcapacity, hthere⟩
      obtain ⟨⟨failure, herror⟩, hstore⟩ := BatchTask.runIn_of_missing hmissing environment rule
      rw [htask]
      exact ⟨Answer.exit_of_error herror, hstore⟩
  · exact ⟨hexit, hstore⟩

end Run

end Invocation

-- No command is left half done: what is not carried out as a whole changes nothing.
theorem runIn_complete_or_unchanged {arguments : List (List Char)} {invocation : Invocation}
    (haccepted : Invocation.parse arguments = .ok invocation) (environment : Environment)
    (processors : Nat) (store : Store) :
    let answer := runIn environment arguments processors store
    (∀ phrase, invocation.command = .steps phrase → answer.store = store) ∧
    (∀ input output, invocation.command = .apply input output →
      (∀ place, store.placeOf? output = some place → store.placeOf? input ≠ some place) →
      (invocation.IsReady store ∧ answer.exit = 0 ∧
          (∃ place, store.placeOf? output = some place ∧ store.ChangesOnly place answer.store) ∧
          answer.store.read input = store.read input ∧
          ∃ rule reader, invocation.Makes store rule ∧
            Reader.openFileBy environment.guess store input = .ok reader ∧
            answer.store.read output = .ok (written (reader.lines.map rule.apply))) ∨
        ¬ invocation.IsReady store ∧ answer.exit = 1 ∧ answer.store = store) ∧
    (∀ input output minLength maxLength recursive extensions,
      invocation.command = .batch input output minLength maxLength recursive extensions →
      ¬ invocation.IsReady store → answer.exit = 1 ∧ answer.store = store) := by
  rw [runIn, haccepted]
  dsimp only
  refine ⟨fun phrase hsteps => ?_, fun input output happly hapart => ?_, ?_⟩
  · exact Invocation.store_runIn_steps environment processors store hsteps
  · obtain ⟨hready, hexit, ⟨place, hplace, hchanges⟩, hwritten⟩ | hrefused :=
      Invocation.runIn_apply environment processors store happly
    · left
      have hneeds := hready.2
      rw [happly] at hneeds
      obtain ⟨content, hread⟩ := hneeds.2.1
      have hkept := hchanges.read_eq_ok hread fun found hfound =>
        hchanges.kindAt? found fun heq => hapart place hplace (heq ▸ hfound)
      exact ⟨hready, hexit, ⟨place, hplace, hchanges⟩, hkept.trans hread.symm, hwritten⟩
    · exact .inr hrefused
  · intro input output minLength maxLength recursive extensions hbatch hready
    exact Invocation.runIn_batch environment processors store hbatch hready

theorem runIn_complete_or_unchanged_small_file :
    let environment : Environment := .serial fun _ => .utf8
    let arguments : List (List Char) :=
      [['a', 'p', 'p', 'l', 'y'], ['i', 'n'], ['o', 'u', 't'], ['a', 's', 'c', 'i', 'i'],
        ['n', 'o', 'n', 'e'], ['e', 'v', 'e', 'r', 'y'], ['1', 's', 't']]
    let store := Store.empty.writeAt [['i', 'n']] ⟨#[0x78]⟩
    let answer := runIn environment arguments 1 store
    answer.exit = 0 ∧ answer.store.read ⟨['i', 'n']⟩ = .ok ⟨#[0x78]⟩ ∧
      store.ChangesOnly [['o', 'u', 't']] answer.store := by
  intro environment arguments store answer
  have haccepted : Invocation.parse arguments = .ok _ := rfl
  obtain ⟨-, happly, -⟩ := runIn_complete_or_unchanged haccepted environment 1 store
  have houtput : store.placeOf? ⟨['o', 'u', 't']⟩ = some [['o', 'u', 't']] := rfl
  have hapart : ∀ place, store.placeOf? ⟨['o', 'u', 't']⟩ = some place →
      store.placeOf? ⟨['i', 'n']⟩ ≠ some place := by
    rintro place ⟨⟩
    decide
  obtain ⟨-, hexit, ⟨place, hplace, hchanges⟩, hinput, -⟩ | ⟨hnone, -⟩ := happly _ _ rfl hapart
  · obtain rfl : [['o', 'u', 't']] = place := Option.some.inj (houtput.symm.trans hplace)
    exact ⟨hexit, hinput, hchanges⟩
  · exact absurd ⟨⟨_, _, rfl, rfl⟩, ⟨_, rfl⟩, ⟨_, rfl⟩, _, rfl⟩ hnone

end CommandLine

end Acrostic
