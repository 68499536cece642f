import Acrostic.Storage.Fault

namespace Acrostic.Rule

-- Why a dictionary of stems cannot be used
inductive DictionaryDefect where
  | unreadable (fault : Storage.Fault)
  | notUtf8
  | malformedLine (number : Nat) (line : List Char)
  | notLoaded
deriving DecidableEq

-- What is wrong with the description of a rule or with its input
inductive Error where
  | unknownCharset (given : List Char)
  | unknownReplacement (given : List Char)
  | notSelection (given : List Char)
  | backwardSelection (given : List Char)
  | missingSuffix (given : List Char)
  | invalidNumber (given : List Char)
  | nonPositiveNumber (given : List Char)
  | nonPositiveCount (count : Nat)
  | invalidFlag (given : List Char)
  | fieldCount (count : Nat)
  | missingInput (stage : String)
  | dictionary (source : List Char) (defect : DictionaryDefect)
deriving DecidableEq

inductive ErrorKind where
  | validation
  | missingInput
  | resourceLoad
deriving DecidableEq

def DictionaryDefect.message : DictionaryDefect → String
  | unreadable fault => fault.message
  | notUtf8 => "stream did not contain valid UTF-8"
  | malformedLine number line =>
    "line " ++ toString number ++ ": expected '<symbol> <- <prefix>...', got '" ++
      String.ofList line ++ "'"
  | notLoaded => "no prefix dictionary was loaded"

namespace Error

def kind : Error → ErrorKind
  | missingInput _ => .missingInput
  | dictionary _ _ => .resourceLoad
  | _ => .validation

def quoting (before : String) (given : List Char) : String :=
  before ++ "'" ++ String.ofList given ++ "'"

def message : Error → String
  | unknownCharset given => quoting "No valid character set: " given
  | unknownReplacement given => quoting "No valid replacement configuration: " given
  | notSelection given =>
    quoting "Selection strings must start with \"every\", but given string does not: " given
  | backwardSelection given =>
    quoting ("Selection strings must contain a positive index or be \"every\", " ++
      "but given string is not: ") given
  | missingSuffix given =>
    quoting ("Index strings must end in a two-letter number suffix, such a suffix " ++
      "followed by \"last\", or be \"last\", but given string does not: ") given
  | invalidNumber given => quoting "Invalid number in index string: " given
  | nonPositiveNumber given =>
    quoting "Index strings must start with a positive number: " given
  | nonPositiveCount count => "Non-positive word count: " ++ toString count
  | invalidFlag given => quoting "Add-spaces flag must be 'true' or 'false': " given
  | fieldCount count => "Invalid number of arguments: " ++ toString count
  | missingInput stage => "Missing input for stage: " ++ stage
  | dictionary source defect =>
    "Failed to load prefix dictionary '" ++ String.ofList source ++ "': " ++ defect.message

end Error

end Acrostic.Rule
