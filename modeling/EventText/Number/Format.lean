import EventText.Number.Double
import EventText.Number.Rounding

namespace EventText

-- The separators of a culture.
structure Culture where
  decimalSeparator : String
  groupSeparator : String
deriving DecidableEq

def Culture.invariant : Culture := ⟨".", ","⟩

inductive Number
  | int (n : Int64)
  | uint (n : UInt64)
  | float (x : Float)

namespace Number

def toFloat : Number → Float
  | .int n => floatOfInt64 n
  | .uint n => n.toFloat
  | .float x => x

-- Zero has no sign, whichever way it is written.
def isNegative : Number → Bool
  | .int n => n < 0
  | .uint _ => false
  | .float x => hasSignBit x && x != 0

def integerMagnitude? : Number → Option Nat
  | .int n => some n.toInt.natAbs
  | .uint n => some n.toNat
  | .float _ => none

-- The magnitude in decimal: integers exactly, floats by their shortest digits. Floats that are
-- not finite have no digits.
def decimal : Number → Decimal
  | .int n => Decimal.ofNat n.toInt.natAbs
  | .uint n => Decimal.ofNat n.toNat
  | .float x => if x.isFinite then floatDecimal x else ⟨[], 1⟩

-- The bits of an integer as an unsigned number.
def bits? : Number → Option Nat
  | .int n => some n.toUInt64.toNat
  | .uint n => some n.toNat
  | .float _ => none

def signText (negative : Bool) : List Char := if negative then ['-'] else []

-- A separator before every third digit from the right.
def grouped (separator : List Char) : List Char → List Char
  | [] => []
  | c :: rest =>
      if rest ≠ [] ∧ rest.length % 3 = 0 then c :: separator ++ grouped separator rest
      else c :: grouped separator rest

def integerText (culture : Culture) (group : Bool) (digits : List Digit) : List Char :=
  if group then grouped culture.groupSeparator.toList (Digits.text digits) else Digits.text digits

def fractionText (culture : Culture) : List Digit → List Char
  | [] => []
  | digits => culture.decimalSeparator.toList ++ Digits.text digits

def allZero (digits : List Digit) : Bool := digits.all (· == 0)

-- A sign is written when a digit is left that it can stand for.
def fixedText (n : Number) (decimals : Nat) (group : Bool) (culture : Culture) : List Char :=
  let (integer, fraction) := n.decimal.fixed decimals
  signText (n.isNegative && !allZero (integer ++ fraction))
    ++ integerText culture group integer ++ fractionText culture fraction

-- One digit, the fraction, and an exponent of at least three digits.
def exponentialText (n : Number) (decimals : Nat) (letter : Char) (culture : Culture) :
    List Char :=
  let rounded := n.decimal.roundTo (decimals + 1)
  let zero := allZero rounded.digits
  let exponent := if zero then 0 else rounded.point - 1
  signText (n.isNegative && !zero) ++ (rounded.digit 0).toChar
    :: fractionText culture (rounded.slice 1 decimals)
    ++ letter :: (if exponent < 0 then '-' else '+') :: natTextPadded 3 exponent.natAbs

def hexDigit (upper : Bool) (n : Nat) : Char :=
  if n < 10 then Char.ofNat ('0'.toNat + n)
  else Char.ofNat ((if upper then 'A' else 'a').toNat + (n - 10))

def hexText (upper : Bool) (n : Nat) : List Char :=
  if _h : n < 16 then [hexDigit upper n]
  else hexText upper (n / 16) ++ [hexDigit upper (n % 16)]
termination_by n

def padZeros (width : Nat) (text : List Char) : List Char :=
  List.replicate (width - text.length) '0' ++ text

-- The shortest text of a number, with the point of the culture.
def generalText (n : Number) (culture : Culture) : List Char :=
  match n with
  | .int n => intText n.toInt
  | .uint n => natText n.toNat
  | .float x => (floatText x).flatMap fun c =>
      if c = '.' then culture.decimalSeparator.toList else [c]

-- Formats of one letter and an optional precision.
def standardText (n : Number) (letter : Char) (precision : Option Nat) (culture : Culture) :
    Option (List Char) :=
  match letter.toLower with
  | 'd' => n.integerMagnitude?.map fun magnitude =>
      signText n.isNegative ++ natTextPadded (precision.getD 1) magnitude
  | 'f' => some (n.fixedText (precision.getD 2) false culture)
  | 'n' => some (n.fixedText (precision.getD 2) true culture)
  | 'p' => some (Number.fixedText (.float (n.toFloat * 100)) (precision.getD 2) true culture
      ++ [' ', '%'])
  | 'e' => some (n.exponentialText (precision.getD 6) letter culture)
  | 'x' => n.bits?.map fun bits => padZeros (precision.getD 1) (hexText (letter == 'X') bits)
  | 'g' | 'r' => some (n.generalText culture)
  | _ => none

def isPlaceholder (c : Char) : Bool := c == '0' || c == '#' || c == '.' || c == ','

def trimCommas (chars : List Char) : List Char :=
  (((chars.dropWhile (· == ',')).reverse).dropWhile (· == ',')).reverse

-- What a custom pattern asks for, between the literal text before and after it.
structure Pattern where
  before : List Char
  after : List Char
  group : Bool
  minInteger : Nat
  minFraction : Nat
  maxFraction : Nat

-- The placeholders have to stand together. A comma between integer places asks for groups,
-- other commas mean nothing.
def readPattern (format : List Char) : Option Pattern :=
  let before := format.takeWhile (!isPlaceholder ·)
  let rest := format.dropWhile (!isPlaceholder ·)
  let after := (rest.reverse.takeWhile (!isPlaceholder ·)).reverse
  let places := (rest.reverse.dropWhile (!isPlaceholder ·)).reverse
  if places = [] ∨ !places.all isPlaceholder then none
  else
    let integer := places.takeWhile (· != '.')
    let fraction := (places.dropWhile (· != '.')).drop 1
    some
      { before, after
        group := (trimCommas integer).contains ','
        minInteger := integer.count '0'
        minFraction := fraction.count '0'
        maxFraction := fraction.count '0' + fraction.count '#' }

-- Zeros at the end of a fraction go, as long as more than `least` digits are left.
def trimFraction (least : Nat) (digits : List Digit) : List Digit :=
  digits.take least ++ Digits.dropTrailingZeros (digits.drop least)

def customText (n : Number) (pattern : Pattern) (culture : Culture) : List Char :=
  let (integer, fraction) := n.decimal.fixed pattern.maxFraction
  let integer := Digits.padLeft pattern.minInteger (integer.dropWhile (· == 0))
  let fraction := trimFraction pattern.minFraction fraction
  pattern.before ++ signText (n.isNegative && !allZero (integer ++ fraction))
    ++ integerText culture pattern.group integer ++ fractionText culture fraction
    ++ pattern.after

-- Formats with the same meaning as numbers, none of them standing for a pattern.
inductive Format
  | standard (letter : Char) (precision : Option Nat)
  | custom (pattern : Pattern)

def maxPrecision : Nat := 99

-- A letter alone or with digits is a standard format, everything else is a custom pattern.
-- A precision beyond 64 bits makes no format, one beyond the limit counts as the limit.
def Format.read? (format : List Char) : Option Format :=
  match format with
  | [] => none
  | letter :: digits =>
      if letter.isAlpha ∧ digits.all Char.isDigit then
        if digits = [] then some (.standard letter none)
        else (Digits.read? digits).bind fun n =>
          if n < 2 ^ 64 then some (.standard letter (some (min n maxPrecision))) else none
      else (readPattern format).map .custom

def notFinite? : Number → Option (List Char)
  | .float x =>
      if x.isFinite then none
      else if x.isNaN then some "NaN".toList
      else if hasSignBit x then some "-Infinity".toList
      else some "Infinity".toList
  | _ => none

-- The text of a number in a format, if the number understands the format. Numbers that are not
-- finite have one text under every format.
def text? (n : Number) (format : List Char) (culture : Culture) : Option (List Char) :=
  match n.notFinite? with
  | some text => some text
  | none =>
      match Format.read? format with
      | some (.standard letter precision) => n.standardText letter precision culture
      | some (.custom pattern) => some (n.customText pattern culture)
      | none => none

end Number

end EventText
