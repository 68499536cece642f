-- Integers in decimal
namespace Acrostic.Text

def digitValue (c : Char) : Nat :=
  c.toNat - '0'.toNat

-- The value of a text of ASCII digits, read behind the digits that are worth `value` so far
def digitsValue (value : Nat) : List Char → Option Nat
  | [] => some value
  | c :: rest => if c.isDigit then digitsValue (10 * value + digitValue c) rest else none

-- One or more ASCII digits
def readDigits? (text : List Char) : Option Nat :=
  if text.isEmpty then none else digitsValue 0 text

-- An optional plus sign and digits, for a value below the limit
def readNatural? (limit : Nat) (text : List Char) : Option Nat :=
  let digits := match text with
    | '+' :: rest => rest
    | _ => text
  (readDigits? digits).filter (· < limit)

def wordLimit : Nat := 0x10000000000000000

-- What no positive signed 64-bit number reaches
def integerLimit : Nat := 0x8000000000000000

-- An unsigned 64-bit number
def readWord? (text : List Char) : Option Nat :=
  readNatural? wordLimit text

-- A signed 64-bit number: an optional sign and digits
def readInteger? (text : List Char) : Option Int :=
  match text with
  | '-' :: rest => ((readDigits? rest).filter (· ≤ integerLimit)).map fun value => -(value : Int)
  | _ => (readNatural? integerLimit text).map fun value => (value : Int)

-- The digits of a number without leading zeros
def natural (value : Nat) : List Char :=
  Nat.toDigits 10 value

end Acrostic.Text
