import Acrostic.Run.Failure
import Acrostic.Text.Decimal
import Acrostic.Text.Split
import Acrostic.Unicode.Casing

namespace Acrostic.CommandLine

-- The units of sizes. A unit that ends another one stands behind it.
def units : List (List Char × Nat) := [
  (['G', 'B'], 1024 * 1024 * 1024),
  (['M', 'B'], 1024 * 1024),
  (['K', 'B'], 1024),
  (['B'], 1)]

-- The text in front of its unit, and how many bytes that is
def splitUnit (text : List Char) : List Char × Nat :=
  match units.find? (·.1.isSuffixOf text) with
  | some (symbol, bytes) => (text.take (text.length - symbol.length), bytes)
  | none => (text, 1)

-- A number of bytes, as a number with or without a unit in any case
def readSize (text : List Char) : Except Run.Failure Nat :=
  let upper := Unicode.uppercase (Text.trim text)
  let (number, bytes) := splitUnit upper
  match Text.readWord? (Text.trim number) with
  | some value => .ok (value * bytes)
  | none => .error (.badSize upper)

end Acrostic.CommandLine
