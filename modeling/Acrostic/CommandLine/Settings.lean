import Acrostic.CommandLine.Parameter
import Acrostic.Storage.Path
import Acrostic.Text.Decimal

namespace Acrostic.CommandLine

open Storage (Path)

-- What has been set so far
structure Settings where
  dictionary : Option Path
  threads : Option Nat
  bufferSize : Option (List Char)
  quiet : Bool
  verbose : Bool
  recursive : Bool
  extensions : Option (List Char)
  input : Option Path
  output : Option Path
  minLength : Option Nat
  maxLength : Option Nat
  phrase : Option (List Char)
  fields : List (List Char)

namespace Settings

def empty : Settings where
  dictionary := none
  threads := none
  bufferSize := none
  quiet := false
  verbose := false
  recursive := false
  extensions := none
  input := none
  output := none
  minLength := none
  maxLength := none
  phrase := none
  fields := []

def has (settings : Settings) : Parameter → Bool
  | .dictionary => settings.dictionary.isSome
  | .threads => settings.threads.isSome
  | .bufferSize => settings.bufferSize.isSome
  | .quiet => settings.quiet
  | .verbose => settings.verbose
  | .recursive => settings.recursive
  | .extensions => settings.extensions.isSome
  | .input => settings.input.isSome
  | .output => settings.output.isSome
  | .minLength => settings.minLength.isSome
  | .maxLength => settings.maxLength.isSome
  | .phrase => settings.phrase.isSome
  | .fields => !settings.fields.isEmpty
  | .help | .version => false

def isEmpty (settings : Settings) : Bool :=
  !(settings.has .dictionary || settings.has .threads || settings.has .bufferSize ||
    settings.quiet || settings.verbose)

def readPath (text : List Char) : Except Refusal Path :=
  if text.isEmpty then .error .missingValue else .ok ⟨text⟩

def readCount (text : List Char) : Except Refusal Nat :=
  match Text.readWord? text with
  | some value => .ok value
  | none => .error .badValue

-- Turns on what the flag stands for
def setFlag (settings : Settings) (flag : Parameter) : Except Refusal Settings :=
  if settings.has flag then .error .conflict
  else
    match flag with
    | .quiet => .ok { settings with quiet := true }
    | .verbose => .ok { settings with verbose := true }
    | .recursive => .ok { settings with recursive := true }
    | .help => .error .help
    | .version => .error .version
    | _ => .ok settings

def setValue (settings : Settings) (parameter : Parameter) (text : List Char) :
    Except Refusal Settings := do
  match parameter with
  | .dictionary => return { settings with dictionary := some (← readPath text) }
  | .threads => return { settings with threads := some (← readCount text) }
  | .bufferSize => return { settings with bufferSize := some text }
  | .extensions => return { settings with extensions := some text }
  | .input => return { settings with input := some (← readPath text) }
  | .output => return { settings with output := some (← readPath text) }
  | .minLength => return { settings with minLength := some (← readCount text) }
  | .maxLength => return { settings with maxLength := some (← readCount text) }
  | .phrase => return { settings with phrase := some text }
  | .fields => return { settings with fields := settings.fields ++ [text] }
  | _ => return settings

-- Sets a parameter to the values that have been found for it. Only the fields of the rule may
-- come in several groups.
def set (settings : Settings) (parameter : Parameter) (values : List (List Char)) :
    Except Refusal Settings :=
  if values.isEmpty then .error .missingValue
  else if parameter ≠ .fields ∧ settings.has parameter then .error .conflict
  else values.foldlM (fun settings text => settings.setValue parameter text) settings

end Settings

end Acrostic.CommandLine
