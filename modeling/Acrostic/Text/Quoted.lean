import Acrostic.Unicode.Printable

namespace Acrostic.Text

def hexadecimal (value : Nat) : List Char :=
  Nat.toDigits 16 value

def escapeByNumber (c : Char) : List Char :=
  ['\\', 'u', '\x7b'] ++ hexadecimal c.toNat ++ ['\x7d']

-- A character as it stands between quotation marks
def escapeChar (c : Char) : List Char :=
  if c.toNat = 0 then ['\\', '0']
  else if c = '\t' then ['\\', 't']
  else if c = '\r' then ['\\', 'r']
  else if c = '\n' then ['\\', 'n']
  else if c = '\\' ∨ c.toNat = 0x22 then ['\\', c]
  else if Unicode.isGraphemeExtend c then escapeByNumber c
  else if Unicode.isPrintable c then [c]
  else escapeByNumber c

-- The text between quotation marks, with everything escaped that would not show
def quoted (text : List Char) : List Char :=
  '\x22' :: text.flatMap escapeChar ++ ['\x22']

end Acrostic.Text
