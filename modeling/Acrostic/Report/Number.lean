import Acrostic.Report.Rounding
import Acrostic.Text.Decimal

namespace Acrostic.Report

-- A comma behind every third digit that others follow
def groupDigits : List Char → List Char
  | first :: second :: third :: next :: rest =>
    first :: second :: third :: ',' :: groupDigits (next :: rest)
  | digits => digits

-- The digits in groups of three, counted from the end
def grouped (value : Nat) : List Char :=
  (groupDigits (Text.natural value).reverse).reverse

def padStart (width : Nat) (digits : List Char) : List Char :=
  List.replicate (width - digits.length) '0' ++ digits

-- A value that is not negative with so many decimals
def fixed (places : Nat) (value : Rat) : List Char :=
  let scale := Nat.pow 10 places
  let units := (roundEven (value * scale)).toNat
  Text.natural (units / scale) ++ '.' :: padStart places (Text.natural (units % scale))

end Acrostic.Report
