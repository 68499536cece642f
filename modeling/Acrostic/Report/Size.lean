import Acrostic.Report.Number

namespace Acrostic.Report

-- A unit for amounts of bytes, used from the amount `start` on
structure SizeUnit where
  start : Nat
  bytes : Nat
  symbol : List Char

-- The units above the byte, the largest one first. An amount goes over to the next unit late,
-- when it is past a power of 1024, although a unit holds a power of 1000.
def sizeUnits : List SizeUnit := [
  ⟨1_152_921_507_377_637_248, 1_000_000_000_000_000_000, ['E', 'B']⟩,
  ⟨1_125_899_909_097_501, 1_000_000_000_000_000, ['P', 'B']⟩,
  ⟨1_099_511_629_538, 1_000_000_000_000, ['T', 'B']⟩,
  ⟨1_073_741_826, 1_000_000_000, ['G', 'B']⟩,
  ⟨1_048_577, 1_000_000, ['M', 'B']⟩,
  ⟨1_000, 1_000, ['K', 'B']⟩]

-- An amount of bytes, with one decimal unless it is below every unit
def sizeText (bytes : Nat) : List Char :=
  match sizeUnits.find? (·.start ≤ bytes) with
  | none => Text.natural bytes ++ [' ', 'B']
  | some unit => fixed 1 (toPrecision (toPrecision bytes / unit.bytes)) ++ ' ' :: unit.symbol

end Acrostic.Report
