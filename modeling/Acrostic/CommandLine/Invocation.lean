import Acrostic.CommandLine.Reading
import Acrostic.CommandLine.Size
import Acrostic.Rule.Config
import Acrostic.Run.Apply
import Acrostic.Run.Batch

namespace Acrostic.CommandLine

open Run (ApplyTask BatchTask Failure)
open Storage (Path)

-- What is to be done
inductive Command where
  | apply (input output : Path)
  | batch (input output : Path) (minLength maxLength : Nat) (recursive : Bool)
    (extensions : List Char)
  | steps (phrase : List Char)

inductive CommandName where
  | apply
  | batch
  | steps
deriving DecidableEq, Repr

namespace CommandName

def text : CommandName → String
  | apply => "apply"
  | batch => "batch"
  | steps => "steps"

def all : List CommandName := [apply, batch, steps]

def ofText? (text : List Char) : Option CommandName :=
  all.find? (·.text.toList == text)

end CommandName

-- A complete command line
structure Invocation where
  command : Command
  fields : List (List Char)
  dictionary : Option Path
  threads : Option Nat
  bufferSize : List Char
  quiet : Bool
  verbose : Bool

-- The options that may stand in front of the command and behind it
def sharedOptions : List Parameter :=
  [.dictionary, .threads, .bufferSize, .quiet, .verbose, .help]

def helpCommand : List Char := "help".toList

namespace Level

def top : Level where
  options := .version :: sharedOptions
  places := []
  commands := helpCommand :: CommandName.all.map (·.text.toList)

def ofCommand : CommandName → Level
  | .apply => ⟨sharedOptions, [.input, .output, .fields], []⟩
  | .batch =>
    ⟨.recursive :: .extensions :: sharedOptions,
      [.input, .output, .minLength, .maxLength, .fields], []⟩
  | .steps => ⟨sharedOptions, [.phrase, .fields], []⟩

end Level

namespace Command

def defaultExtensions : List Char := "txt".toList

-- The command of which nothing is missing
def ofSettings? (name : CommandName) (settings : Settings) : Option Command :=
  match name with
  | .apply => do return apply (← settings.input) (← settings.output)
  | .batch => do
    return batch (← settings.input) (← settings.output) (← settings.minLength)
      (← settings.maxLength) settings.recursive (settings.extensions.getD defaultExtensions)
  | .steps => do return steps (← settings.phrase)

def name : Command → CommandName
  | apply .. => .apply
  | batch .. => .batch
  | steps .. => .steps

end Command

-- The extensions between commas, without the dots in front of them
def splitExtensions (text : List Char) : List (List Char) :=
  ((text.splitOn ',').map fun item =>
    Unicode.lowercase ((Text.trim item).dropWhile (· == '.'))).filter (!·.isEmpty)

namespace Invocation

def defaultBufferSize : List Char := "8MB".toList

-- What stands behind the command goes before what stands in front of it.
def ofSettings (command : Command) (front behind : Settings) : Invocation where
  command := command
  fields := behind.fields
  dictionary := behind.dictionary <|> front.dictionary
  threads := behind.threads <|> front.threads
  bufferSize := (behind.bufferSize <|> front.bufferSize).getD defaultBufferSize
  quiet := behind.quiet || front.quiet
  verbose := behind.verbose || front.verbose

def readCommand (name : CommandName) (arguments : List (List Char)) :
    Except Refusal (Command × Settings) := do
  let level := Level.ofCommand name
  let (reading, _) ← Reading.run level (Reading.start level) arguments
  let reading ← reading.settle
  match Command.ofSettings? name reading.settings with
  | some command =>
    if reading.settings.fields.isEmpty then .error .missingArgument
    else return (command, reading.settings)
  | none => .error .missingArgument

-- The help on the program or on one of its commands
def readHelp : List (List Char) → Refusal
  | [] => .help
  | [name] => if Level.top.commands.contains name then .help else .unknownCommand
  | _ => .unknownCommand

-- The arguments behind the name of the program. What stands in front of the command is checked
-- last as far as it is still pending.
def parse (arguments : List (List Char)) : Except Refusal Invocation := do
  let (reading, rest) ← Reading.run Level.top (Reading.start Level.top) arguments
  match rest with
  | [] =>
    let reading ← reading.settle
    if reading.settings.isEmpty then .error .nothingGiven else .error .missingCommand
  | word :: behind =>
    match CommandName.ofText? word with
    | none => .error (readHelp behind)
    | some name =>
      let (command, settings) ← readCommand name behind
      let reading ← reading.settle
      return ofSettings command reading.settings settings

def ruleConfig (invocation : Invocation) : Except Rule.Error Rule.Config :=
  Rule.Config.ofFields invocation.fields

def capacity (invocation : Invocation) : Except Failure Nat :=
  readSize invocation.bufferSize

def extensions (invocation : Invocation) : List (List Char) :=
  match invocation.command with
  | .batch _ _ _ _ _ text => splitExtensions text
  | _ => []

def applyTask (invocation : Invocation) : Except Failure ApplyTask := do
  match invocation.command with
  | .apply input output =>
    return ⟨input, output, ← invocation.capacity, invocation.quiet, invocation.verbose⟩
  | _ => .error .notApply

def batchTask (invocation : Invocation) : Except Failure BatchTask := do
  match invocation.command with
  | .batch input output minLength maxLength recursive _ =>
    let lengths ← Run.lengthRange minLength maxLength
    return {
      input, lengths
      folder := output
      selection := ⟨recursive, invocation.extensions⟩
      capacity := ← invocation.capacity
      quiet := invocation.quiet
      verbose := invocation.verbose }
  | _ => .error .notBatch

end Invocation

end Acrostic.CommandLine
