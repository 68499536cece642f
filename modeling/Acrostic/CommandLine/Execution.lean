import Acrostic.CommandLine.Help
import Acrostic.Dictionary.File
import Acrostic.Run.Standard

namespace Acrostic.CommandLine

open Report (Notice)
open Run (Environment Failure Outcome)
open Storage (Store)

-- Why a command was not carried out
inductive Complaint where
  | refusal (reason : Refusal)
  | badFields (command : CommandName) (error : Rule.Error)
  | failure (reason : Failure)

namespace Complaint

def exit : Complaint → Nat
  | refusal reason => reason.exit
  | badFields _ _ | failure _ => 1

def render (colored : Bool) : Complaint → String
  | refusal reason => reason.message ++ "\n"
  | badFields command error =>
    error.message ++ "\n\nUsage:\n  " ++ command.usage ++ "\n\n" ++ fieldsHelp
  | failure reason => Report.errorText colored reason.message

end Complaint

-- What a command leaves behind
structure Answer where
  store : Store
  notices : List Notice
  complaint : Option Complaint

namespace Answer

def exit (answer : Answer) : Nat :=
  match answer.complaint with
  | some complaint => complaint.exit
  | none => 0

def ofOutcome (before : List Notice) (outcome : Outcome) : Answer where
  store := outcome.store
  notices := before ++ outcome.notices
  complaint :=
    match outcome.result with
    | .ok () => none
    | .error failure => some (.failure failure)

end Answer

namespace Invocation

-- A command that shows the steps of a rule shows nothing else.
def isSilent (invocation : Invocation) : Bool :=
  invocation.quiet || invocation.command.name == .steps

-- The dictionary is only looked at when the rule needs one.
def rule (invocation : Invocation) (config : Rule.Config) (store : Store) :
    Except Rule.Error Rule := do
  if config.replacement.needsDictionary then
    let dictionary ← match invocation.dictionary with
      | some path => Dictionary.load store path
      | none => .ok Dictionary.builtin
    Rule.ofConfig config (some dictionary)
  else Rule.ofConfig config none

def positionsText (positions : List Int) : String :=
  "[" ++ ", ".intercalate (positions.map toString) ++ "]"

def configuration (invocation : Invocation) (config : Rule.Config) (processors : Nat) :
    List Notice :=
  [.header "Configuration",
    .info ("Character set: " ++ config.charset.name),
    .info ("Replacement:   " ++ config.replacement.name),
    .info ("Every nth:     " ++ toString config.step),
    .info ("Characters:    " ++ positionsText config.positions),
    .info ("Add spaces:    " ++ toString config.spaced)] ++
  (match invocation.dictionary with
    | some path => [.info ("Prefix map:    " ++ String.ofList path.quoted)]
    | none => []) ++
  [.info ("Threads:       " ++ toString (invocation.threads.getD processors))]

def stepLine (step : Rule.Step) (snapshot : List Char) : Notice :=
  .plain (String.ofList (Report.padEnd 18 (step.name.toList ++ [':']) ++ ' ' :: snapshot))

def runCommand (environment : Environment) (invocation : Invocation) (rule : Rule) (store : Store)
    (before : List Notice) : Answer :=
  match invocation.command with
  | .apply .. =>
    match invocation.applyTask with
    | .error failure => ⟨store, before, some (.failure failure)⟩
    | .ok task => .ofOutcome before (task.runIn environment rule store)
  | .batch .. =>
    match invocation.batchTask with
    | .error failure => ⟨store, before, some (.failure failure)⟩
    | .ok task => .ofOutcome before (task.runIn environment rule store)
  | .steps phrase =>
    ⟨store, before ++ List.zipWith stepLine Rule.Step.all (rule.steps phrase), none⟩

-- Carries out a command. `processors` is the number of threads when none is given.
def runIn (environment : Environment) (invocation : Invocation) (processors : Nat) (store : Store) :
    Answer :=
  match invocation.ruleConfig with
  | .error error => ⟨store, [], some (.badFields invocation.command.name error)⟩
  | .ok config =>
    let banner := if invocation.isSilent then [] else [.banner]
    match invocation.rule config store with
    | .error error => ⟨store, banner, some (.failure (.rule error))⟩
    | .ok rule =>
      let before :=
        if !invocation.isSilent && invocation.verbose then
          banner ++ invocation.configuration config processors
        else banner
      invocation.runCommand environment rule store before

end Invocation

-- Carries out the command that the arguments give
def runIn (environment : Environment) (arguments : List (List Char)) (processors : Nat)
    (store : Store) : Answer :=
  match Invocation.parse arguments with
  | .ok invocation => invocation.runIn environment processors store
  | .error .version => ⟨store, [.plain versionText], none⟩
  | .error .help => ⟨store, [.plain programHelp], none⟩
  | .error refusal => ⟨store, [], some (.refusal refusal)⟩

def run (arguments : List (List Char)) (processors : Nat) (store : Store) : Answer :=
  runIn .standard arguments processors store

end Acrostic.CommandLine
