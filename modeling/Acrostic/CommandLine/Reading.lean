import Acrostic.CommandLine.Settings

namespace Acrostic.CommandLine

-- An argument by its looks
inductive Word where
  -- two dashes alone
  | separator
  | long (name : List Char) (value? : Option (List Char))
  | short (letters : List Char)
  | plain

namespace Word

-- A value may follow the name behind an equals sign.
def ofLong (text : List Char) : Word :=
  match text.dropWhile (· ≠ '=') with
  | [] => .long text none
  | _ :: value => .long (text.takeWhile (· ≠ '=')) (some value)

def ofText : List Char → Word
  | ['-', '-'] => .separator
  | '-' :: '-' :: rest => ofLong rest
  | '-' :: letter :: letters => .short (letter :: letters)
  | _ => .plain

end Word

-- What may stand on a command line: the options, the places to be filled in order, of which the
-- last one takes all that follows, and the names that end the reading
structure Level where
  options : List Parameter
  places : List Parameter
  commands : List (List Char)

namespace Level

def long? (level : Level) (name : List Char) : Option Parameter :=
  level.options.find? (·.longName.toList == name)

def short? (level : Level) (letter : Char) : Option Parameter :=
  level.options.find? (·.letter? == some letter)

end Level

-- How far a command line has been read
structure Reading where
  settings : Settings
  -- the parameter whose values are still being found, which are checked when they are complete
  pending : Option (Parameter × List (List Char))
  -- whether the next argument belongs to an option
  awaiting : Bool
  -- whether dashes have lost their meaning
  literal : Bool
  places : List Parameter

namespace Reading

def start (level : Level) : Reading := ⟨.empty, none, false, false, level.places⟩

-- Sets what is pending
def settle (reading : Reading) : Except Refusal Reading :=
  match reading.pending with
  | none => .ok reading
  | some (parameter, values) =>
    (reading.settings.set parameter values).map fun settings =>
      { reading with settings, pending := none, awaiting := false }

def takeFlag (reading : Reading) (flag : Parameter) : Except Refusal Reading := do
  let reading ← reading.settle
  return { reading with settings := ← reading.settings.setFlag flag }

-- An option and the value that is attached to it, or is to follow
def takeOption (reading : Reading) (parameter : Parameter) :
    Option (List Char) → Except Refusal Reading
  | some value => do
    let reading ← reading.settle
    return { reading with settings := ← reading.settings.set parameter [value] }
  | none => do
    let reading ← reading.settle
    return { reading with pending := some (parameter, []), awaiting := true }

def takeLong (level : Level) (reading : Reading) (name : List Char)
    (value? : Option (List Char)) : Except Refusal Reading :=
  match level.long? name with
  | none => .error .unknownArgument
  | some parameter =>
    if parameter.isFlag then
      if value?.isSome then .error .unwantedValue else reading.takeFlag parameter
    else reading.takeOption parameter value?

-- Letters behind one dash. What follows the letter of an option is its value.
def takeShort (level : Level) (reading : Reading) : List Char → Except Refusal Reading
  | [] => .ok reading
  | letter :: rest =>
    match level.short? letter with
    | none => .error .unknownArgument
    | some parameter =>
      if parameter.isFlag then do takeShort level (← reading.takeFlag parameter) rest
      else
        match rest with
        | [] => reading.takeOption parameter none
        | '=' :: value => reading.takeOption parameter (some value)
        | value => reading.takeOption parameter (some value)

-- Puts the argument in the next place
def takePlace (level : Level) (reading : Reading) (text : List Char) :
    Except Refusal Reading :=
  match reading.places, reading.pending with
  | [], _ =>
    if reading.literal && level.commands.contains text then .error .unknownArgument
    else .error .unknownCommand
  | .fields :: _, some (.fields, values) =>
    .ok { reading with pending := some (.fields, values ++ [text]) }
  | place :: others, _ => do
    let reading ← reading.settle
    return { reading with
      pending := some (place, [text])
      places := if place = .fields then [place] else others }

def take (level : Level) (reading : Reading) (text : List Char) : Except Refusal Reading :=
  if reading.literal then takePlace level reading text
  else
    match Word.ofText text with
    | .separator => .ok { reading with literal := true }
    | .long name value? => takeLong level reading name value?
    | .short letters => takeShort level reading letters
    | .plain =>
      match reading.awaiting, reading.pending with
      | true, some (parameter, values) =>
        .ok { reading with pending := some (parameter, values ++ [text]), awaiting := false }
      | _, _ => takePlace level reading text

-- Reads up to the name of a command, which is left with what is behind it
def run (level : Level) (reading : Reading) :
    List (List Char) → Except Refusal (Reading × List (List Char))
  | [] => .ok (reading, [])
  | text :: rest =>
    if !reading.literal && !reading.awaiting && level.commands.contains text then
      .ok (reading, text :: rest)
    else do run level (← take level reading text) rest

end Reading

end Acrostic.CommandLine
