import Acrostic.CommandLine.Invocation

namespace Acrostic.CommandLine

def programName : String := "password-rules"

def versionText : String := programName ++ " 0.1.0"

def fieldsText : String :=
  "<character set> <replacement> <word> <character position> " ++
    "[<add spaces between characters>]"

-- What the fields of a rule mean
def fieldsHelp : String := "\n".intercalate [
  "RULE PARAMETERS:",
  "    <character set>",
  "        Specifies the character set to which the input is cast.",
  "        Either 'ascii' or 'lowercase-letters'",
  "    <replacement>",
  "        Specifies whether to replace certain character sequences.",
  "        Either 'none' or 'word-prefixes'",
  "    <word>",
  "        Specifies which tokens to take.",
  "        Possible values: 'every', 'every2nd', ...",
  "    <character position>",
  "        Specifies which characters to take from each token.",
  "        Possible values:",
  "          '1st', '2nd', ...",
  "          'last', '2ndlast', ...",
  "          '1st+2nd', ..., '1st+last', ..., '1st+2nd+3rd', ...",
  "    <add spaces between characters>",
  "        Either 'false' (default) or 'true' (add one space",
  "        between each pair of characters of the output passwords)",
  ""]

-- How a command is written
def CommandName.usage (name : CommandName) : String :=
  let places := match name with
    | .apply => " <input> <output> "
    | .batch => " <input> <output> <min-password-length> <max-password-length> "
    | .steps => " <phrase> "
  programName ++ " " ++ name.text ++ places ++ fieldsText

def usages : String :=
  String.join (CommandName.all.map fun name => "  " ++ name.usage ++ "\n")

def programHelp : String :=
  "Derive password candidates from natural-language phrases\n\nUsage:\n" ++ usages ++
    "\nOptions:\n" ++
    "      --prefix-map <FILE>   Prefix dictionary file to use instead of the built-in one\n" ++
    "  -t, --threads <NUM>       Number of threads (default: auto-detect)\n" ++
    "      --buffer-size <SIZE>  Write buffer size per output file [default: 8MB]\n" ++
    "  -q, --quiet               Quiet mode - minimal output\n" ++
    "  -v, --verbose             Verbose mode - detailed logging\n" ++
    "  -r, --recursive           Process directories recursively (batch)\n" ++
    "      --extensions <EXT>    File extensions to process in directories (batch)\n" ++
    "  -h, --help                Print help\n" ++
    "  -V, --version             Print version\n\n" ++ fieldsHelp

def Refusal.message : Refusal → String
  | help => programHelp
  | version => versionText
  | nothingGiven => programHelp
  | missingCommand => "error: a command is required"
  | missingArgument => "error: a required argument was not provided"
  | unknownCommand => "error: unrecognized command"
  | unknownArgument => "error: unexpected argument"
  | conflict => "error: an option was given more than once"
  | unwantedValue => "error: a flag takes no value"
  | missingValue => "error: a value is required"
  | badValue => "error: a value is not a number"

end Acrostic.CommandLine
