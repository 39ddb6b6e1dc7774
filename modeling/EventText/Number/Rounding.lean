import EventText.Number.Double

namespace EventText

namespace Digits

-- Adds one to the last digit. The flag tells that a one has to go in front.
def increment : List Digit → Bool × List Digit
  | [] => (true, [])
  | d :: rest =>
      let (carry, rest) := increment rest
      if carry then if d = 9 then (true, 0 :: rest) else (false, (d + 1) :: rest)
      else (false, d :: rest)

end Digits

namespace Decimal

-- The decimal of a natural number.
def ofNat (n : Nat) : Decimal := ⟨Digits.ofNat n, (Digits.ofNat n).length⟩

-- Digits outside the stored ones are zero.
def digit (d : Decimal) (index : Int) : Digit :=
  if 0 ≤ index then d.digits.getD index.toNat 0 else 0

-- Keeps so many digits from the first one on. A half is rounded away from zero. Less than no
-- digit at all leaves nothing.
def roundTo (d : Decimal) (count : Int) : Decimal :=
  if count < 0 then ⟨[], d.point⟩
  else
    let kept := d.digits.take count.toNat
    if 5 ≤ d.digit count then
      match Digits.increment kept with
      | (true, digits) => ⟨1 :: digits, d.point + 1⟩
      | (false, digits) => ⟨digits, d.point⟩
    else ⟨kept, d.point⟩

-- So many digits from the place `start` on.
def slice (d : Decimal) (start : Int) (count : Nat) : List Digit :=
  (List.range count).map fun (i : Nat) => d.digit (start + i)

-- Integer and fraction digits at the given number of decimals.
def fixed (d : Decimal) (decimals : Nat) : List Digit × List Digit :=
  let rounded := d.roundTo (d.point + decimals)
  let integer := if rounded.point ≤ 0 then [0] else rounded.slice 0 rounded.point.toNat
  (integer, rounded.slice rounded.point decimals)

end Decimal

end EventText
