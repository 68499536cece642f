namespace Acrostic.Report

-- The nearest whole number. A half goes to the even neighbour.
def roundEven (value : Rat) : Int :=
  let below := value.floor
  let rest := value - below
  if rest < 1 / 2 then below
  else if 1 / 2 < rest then below + 1
  else if below % 2 = 0 then below
  else below + 1

-- The greatest exponent of a power of two that a positive value reaches
def binaryExponent (value : Rat) : Int :=
  let guess : Int := value.num.natAbs.log2 - value.den.log2
  if (2 : Rat) ^ guess ≤ value then guess else guess - 1

-- How many binary digits of a measured value are kept
def precision : Nat := 53

-- The value with its leading binary digits only
def toPrecision (value : Rat) : Rat :=
  if value = 0 then 0
  else
    let unit := (2 : Rat) ^ (binaryExponent value - (precision - 1))
    roundEven (value / unit) * unit

end Acrostic.Report
