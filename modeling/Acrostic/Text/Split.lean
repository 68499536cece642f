import Acrostic.Unicode.WhiteSpace

namespace Acrostic.Text

open Unicode (isWhiteSpace)

def trimStart (text : List Char) : List Char :=
  text.dropWhile isWhiteSpace

def trimEnd (text : List Char) : List Char :=
  (text.reverse.dropWhile isWhiteSpace).reverse

-- The text without the white space at its ends
def trim (text : List Char) : List Char :=
  trimEnd (trimStart text)

-- The maximal runs of characters that are not white space
def words (text : List Char) : List (List Char) :=
  (text.splitOnP isWhiteSpace).filter (!·.isEmpty)

-- A line in front of a line feed, less one carriage return at its end
def dropReturn (line : List Char) : List Char :=
  if line.getLast? = some '\r' then line.dropLast else line

-- The lines of a text. A final line feed ends the last line and starts no other.
def lines (text : List Char) : List (List Char) :=
  let pieces := text.splitOn '\n'
  pieces.dropLast.map dropReturn ++
    match pieces.getLast? with
    | some (c :: rest) => [c :: rest]
    | _ => []

end Acrostic.Text
