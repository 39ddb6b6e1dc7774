import EventText.Number.Shortest

namespace EventText

namespace Decimal

-- Positional notation without an exponent and without a point when there is no fraction.
def plain (d : Decimal) : List Char :=
  if d.point ≤ 0 then
    '0' :: '.' :: (List.replicate (-d.point).toNat '0' ++ Digits.text d.digits)
  else
    let before := d.point.toNat
    let integer := d.digits.take before
    let zeros := List.replicate (before - d.digits.length) 0
    match d.digits.drop before with
    | [] => Digits.text (integer ++ zeros)
    | fraction => Digits.text integer ++ '.' :: Digits.text fraction

end Decimal

-- The sign bit counts even for zero.
def hasSignBit (x : Float) : Bool := x.toBits.toNat / 2 ^ 63 == 1

-- The shortest decimal of the magnitude of a finite double.
def floatDecimal (x : Float) : Decimal := Decimal.shortest (Binary.ofBits x.toBits.toNat)

-- The default text of a double.
def floatText (x : Float) : List Char :=
  if x.isNaN then "NaN".toList
  else
    let body := if x.isInf then "inf".toList else (floatDecimal x).plain
    if hasSignBit x then '-' :: body else body

-- The remainder of the truncated division of two doubles. It is exact: both magnitudes are
-- brought to the smaller exponent, and what is left has no more bits than one of them.
-- The sign is that of the dividend, also on a zero.
def floatRemainder (a b : Float) : Float :=
  if a.isNaN || b.isNaN || a.isInf || b == 0 then 0 / 0
  else if b.isInf then a
  else
    let x := Binary.ofBits a.toBits.toNat
    let y := Binary.ofBits b.toBits.toNat
    let exponent := min x.exponent y.exponent
    let left := x.mantissa * 2 ^ (x.exponent - exponent).toNat
    let right := y.mantissa * 2 ^ (y.exponent - exponent).toNat
    let rest := (Float.ofNat (left % right)).scaleB exponent
    if hasSignBit a then -rest else rest

-- The double nearest to a decimal with the given digits before and after the point.
def floatOfDigits (integer fraction : List Digit) : Float :=
  Float.ofScientific (Digits.toNat (integer ++ fraction)) true fraction.length

-- The double nearest to a signed integer is that of its magnitude with the sign put back. The
-- least integer is its own negative and has the right magnitude without a sign.
def floatOfInt64 (n : Int64) : Float :=
  if n < 0 then -((-n).toUInt64.toFloat) else n.toUInt64.toFloat

-- Integers of 64 bits, where the number has one.
def int64OfInt? (n : Int) : Option Int64 :=
  if Int64.minValue.toInt ≤ n ∧ n ≤ Int64.maxValue.toInt then some (Int64.ofInt n) else none

end EventText
