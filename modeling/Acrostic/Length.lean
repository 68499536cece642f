import Acrostic.Unicode.WhiteSpace

namespace Acrostic

-- The ASCII blanks; the vertical tab is not one of them
def isAsciiBlank (c : Char) : Bool :=
  c == ' ' || c == '\t' || c == '\n' || c.toNat == 0x0C || c == '\r'

-- The number of characters of a password that are not blank, so that spacing does not count
def passwordLength (password : List Char) : Nat :=
  if password.all (·.toNat < 0x80) then password.countP (!isAsciiBlank ·)
  else password.countP (!Unicode.isWhiteSpace ·)

-- The lengths of the passwords that are kept, both ends included
structure LengthRange where
  min : Nat
  max : Nat
  min_le_max : min ≤ max

namespace LengthRange

def ofBounds? (min max : Nat) : Option LengthRange :=
  if h : min ≤ max then some ⟨min, max, h⟩ else none

def contains (range : LengthRange) (length : Nat) : Bool :=
  range.min ≤ length && length ≤ range.max

-- The length of the password, if it is in the range
def route (range : LengthRange) (password : List Char) : Option Nat :=
  let length := passwordLength password
  if range.contains length then some length else none

end LengthRange

end Acrostic
