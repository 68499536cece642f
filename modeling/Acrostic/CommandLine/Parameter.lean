namespace Acrostic.CommandLine

-- What the arguments of a command line set
inductive Parameter where
  | dictionary
  | threads
  | bufferSize
  | quiet
  | verbose
  | recursive
  | extensions
  | help
  | version
  | input
  | output
  | minLength
  | maxLength
  | phrase
  -- the fields of the rule, as many as follow
  | fields
deriving DecidableEq, Repr

namespace Parameter

-- Flags stand alone, all others take a value.
def isFlag : Parameter → Bool
  | quiet | verbose | recursive | help | version => true
  | _ => false

def longName : Parameter → String
  | dictionary => "prefix-map"
  | threads => "threads"
  | bufferSize => "buffer-size"
  | quiet => "quiet"
  | verbose => "verbose"
  | recursive => "recursive"
  | extensions => "extensions"
  | help => "help"
  | version => "version"
  | input => "input"
  | output => "output"
  | minLength => "min-length"
  | maxLength => "max-length"
  | phrase => "phrase"
  | fields => "rule"

def letter? : Parameter → Option Char
  | threads => some 't'
  | quiet => some 'q'
  | verbose => some 'v'
  | recursive => some 'r'
  | help => some 'h'
  | version => some 'V'
  | _ => none

end Parameter

-- Why a command line is not carried out
inductive Refusal where
  -- the user asks for something else
  | help
  | version
  | nothingGiven
  | missingCommand
  | missingArgument
  | unknownCommand
  | unknownArgument
  -- given twice
  | conflict
  -- a value for a flag
  | unwantedValue
  | missingValue
  | badValue
deriving DecidableEq, Repr

namespace Refusal

def exit : Refusal → Nat
  | help | version => 0
  | _ => 2

end Refusal

end Acrostic.CommandLine
