import Acrostic.Rule.Error
import Acrostic.Text.Split
import Acrostic.Token
import Acrostic.Unicode.Casing

namespace Acrostic

namespace Dictionary

-- A symbol and the stems it stands for, which are in lowercase
structure Entry where
  symbol : List Char
  stems : List (List Char)
deriving DecidableEq

namespace Entry

def ofStems (symbol : List Char) (stems : List (List Char)) : Entry where
  symbol := symbol
  stems := stems.map Unicode.lowercase

-- The first stem that the lowercase token starts with
def match? (entry : Entry) (lowercaseToken : List Char) : Option (List Char) :=
  entry.stems.find? (·.isPrefixOf lowercaseToken)

end Entry

end Dictionary

-- Entries in the order they are tried in
structure Dictionary where
  entries : List Dictionary.Entry
deriving DecidableEq

namespace Dictionary

def arrow : List Char := ['<', '-']

-- The entry of a line: a symbol, an arrow and one or more stems, separated by white space
def entryOfFields? : List (List Char) → Option Entry
  | symbol :: mark :: stem :: stems =>
    if mark = arrow then some (Entry.ofStems symbol (stem :: stems)) else none
  | _ => none

-- `number` is the number of the first of the lines.
def parseLines (source : List Char) (number : Nat) :
    List (List Char) → Except Rule.Error (List Entry)
  | [] => .ok []
  | line :: rest =>
    match Text.words line with
    | [] => parseLines source (number + 1) rest
    | fields =>
      match entryOfFields? fields with
      | none => .error (.dictionary source (.malformedLine number line))
      | some entry => (parseLines source (number + 1) rest).map (entry :: ·)

-- One entry a line; blank lines are passed over, any other line fails the whole dictionary
def parse (source content : List Char) : Except Rule.Error Dictionary :=
  (parseLines source 1 (Text.lines content)).map Dictionary.mk

-- The symbol and the stem of the first entry that matches
def match? (dictionary : Dictionary) (lowercaseToken : List Char) :
    Option (List Char × List Char) :=
  dictionary.entries.findSome? fun entry =>
    (entry.match? lowercaseToken).map fun stem => (entry.symbol, stem)

-- The token with its stem replaced by the symbol. The rest keeps its case.
def substitute (dictionary : Dictionary) (token : Token) : Token :=
  match dictionary.match? (Unicode.lowercase token) with
  | some (symbol, stem) => symbol ++ token.drop stem.length
  | none => token

def entryOfStrings (symbol : String) (stems : List String) : Entry :=
  Entry.ofStems symbol.toList (stems.map String.toList)

-- Symbols for English words by sound or by name
def builtin : Dictionary := ⟨[
  entryOfStrings "8" ["eight", "ate"],
  entryOfStrings "!" ["bang", "exclamation"],
  entryOfStrings "@" ["at"],
  entryOfStrings "#" ["hash", "pound", "number"],
  entryOfStrings "$" ["dollar", "cash"],
  entryOfStrings "%" ["percent"],
  entryOfStrings "^" ["caret", "hat"],
  entryOfStrings "&" ["and", "ampersand"],
  entryOfStrings "*" ["star", "asterisk"],
  entryOfStrings "(" ["open"],
  entryOfStrings ")" ["close"],
  entryOfStrings "-" ["dash", "minus", "hyphen"],
  entryOfStrings "_" ["underscore"],
  entryOfStrings "=" ["equals"],
  entryOfStrings "+" ["plus"],
  entryOfStrings ":" ["colon"],
  entryOfStrings ";" ["semicolon"],
  entryOfStrings "~" ["tilde", "twiddle"],
  entryOfStrings "?" ["question", "query"],
  entryOfStrings "/" ["slash"],
  entryOfStrings "|" ["pipe", "bar"],
  entryOfStrings "\\" ["backslash"],
  entryOfStrings "<" ["less"],
  entryOfStrings ">" ["greater"],
  entryOfStrings "." ["dot", "period"],
  entryOfStrings "," ["comma"],
  entryOfStrings "\x22" ["quote"],
  entryOfStrings "'" ["tick", "apostrophe"],
  entryOfStrings "1" ["one", "won"],
  entryOfStrings "2" ["two", "too", "to"],
  entryOfStrings "4" ["four", "for"]]⟩

end Dictionary

end Acrostic
