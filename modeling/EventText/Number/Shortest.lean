import EventText.Number.Digits

namespace EventText

-- A positive binary number `mantissa * 2 ^ exponent`. At the lower end of a binade the gap
-- below is half as wide as the gap above.
structure Binary where
  mantissa : Nat
  exponent : Int
  narrowBelow : Bool

-- The finite magnitude of a double, zero included.
def Binary.ofBits (bits : Nat) : Binary :=
  let field : Nat := bits / 2 ^ 52 % 2 ^ 11
  let fraction : Nat := bits % 2 ^ 52
  if field = 0 then ⟨fraction, -1074, false⟩
  else ⟨2 ^ 52 + fraction, (field : Int) - 1075, fraction = 0 && field > 1⟩

-- A quotient of natural numbers.
structure Ratio where
  num : Nat
  den : Nat

namespace Ratio

def scale (r : Ratio) (base : Nat) (power : Int) : Ratio :=
  if 0 ≤ power then ⟨r.num * base ^ power.toNat, r.den⟩
  else ⟨r.num, r.den * base ^ (-power).toNat⟩

def le (a b : Ratio) : Bool := a.num * b.den ≤ b.num * a.den

def lt (a b : Ratio) : Bool := a.num * b.den < b.num * a.den

end Ratio

namespace Shortest

-- How many zeros stand between the point and the first digit of a number below one.
def leadingZeros (r : Ratio) : Nat → Nat → Nat
  | 0, zeros => zeros
  | fuel + 1, zeros =>
      if r.num * 10 ≥ r.den then zeros
      else leadingZeros ⟨r.num * 10, r.den⟩ fuel (zeros + 1)

-- The position of the first digit: `10 ^ (point - 1) ≤ r < 10 ^ point`.
def point (r : Ratio) : Int :=
  if r.num ≥ r.den then (Digits.ofNat (r.num / r.den)).length
  else -(leadingZeros r r.den.log2 0 : Int)

-- The reals that read back as the number. The ends belong to them when the mantissa is even.
structure Interval where
  low : Ratio
  high : Ratio
  closed : Bool

def interval (b : Binary) : Interval :=
  let quarter (n : Nat) : Ratio := Ratio.scale ⟨n, 4⟩ 2 b.exponent
  { low := quarter (if b.narrowBelow then 4 * b.mantissa - 1 else 4 * b.mantissa - 2)
    high := quarter (4 * b.mantissa + 2)
    closed := b.mantissa % 2 = 0 }

def Interval.contains (i : Interval) (r : Ratio) : Bool :=
  if i.closed then i.low.le r && r.le i.high else i.low.lt r && r.lt i.high

-- The two neighbours of the value on the grid of step `10 ^ power`. When both read back the
-- nearer one is taken, and the upper one of two equally near.
def onGrid (value : Ratio) (range : Interval) (power : Int) : Option Nat :=
  let steps := value.scale 10 (-power)
  let below := steps.num / steps.den
  let remainder := steps.num % steps.den
  let back (n : Nat) : Bool := range.contains (Ratio.scale ⟨n, 1⟩ 10 power)
  match back below, back (below + 1) with
  | true, true => some (if 2 * remainder < steps.den then below else below + 1)
  | true, false => some below
  | false, true => some (below + 1)
  | false, false => none

-- Grids from coarse to fine, the first with a hit wins.
def search (value : Ratio) (range : Interval) (power : Int) : Nat → Nat × Int
  | 0 => (value.num / value.den, 0)
  | fuel + 1 =>
      match onGrid value range power with
      | some n => (n, power)
      | none => search value range (power - 1) fuel

end Shortest

-- Decimal digits with the place of the decimal point: so many digits stand before it.
structure Decimal where
  digits : List Digit
  point : Int

-- The fewest digits that read back as the same double. Zero is a single zero.
def Decimal.shortest (b : Binary) : Decimal :=
  if b.mantissa = 0 then ⟨[0], 1⟩
  else
    let value := Ratio.scale ⟨b.mantissa, 1⟩ 2 b.exponent
    let (n, power) := Shortest.search value (Shortest.interval b) (Shortest.point value - 1) 20
    let digits := Digits.ofNat n
    ⟨Digits.dropTrailingZeros digits, digits.length + power⟩

end EventText
