import EventText.Json.Document

namespace EventText.Json

-- Readers take characters from the front and return what is left.
abbrev Reader (α : Type) := List Char → Option (α × List Char)

def isSpace (c : Char) : Bool := c == ' ' || c == '\n' || c == '\t' || c == '\r'

def skip (chars : List Char) : List Char := chars.dropWhile isSpace

def hexDigit? (c : Char) : Option Nat :=
  if '0' ≤ c ∧ c ≤ '9' then some (c.toNat - '0'.toNat)
  else if 'a' ≤ c ∧ c ≤ 'f' then some (c.toNat - 'a'.toNat + 10)
  else if 'A' ≤ c ∧ c ≤ 'F' then some (c.toNat - 'A'.toNat + 10)
  else none

def hexFour : Reader Nat
  | a :: b :: c :: d :: rest => do
      let a ← hexDigit? a
      let b ← hexDigit? b
      let c ← hexDigit? c
      let d ← hexDigit? d
      some (((a * 16 + b) * 16 + c) * 16 + d, rest)
  | _ => none

-- The character of a `\u` escape. The two halves of a surrogate pair have to stand together.
def unicodeEscape : Reader Char := fun chars => do
  let (code, rest) ← hexFour chars
  if code < 0xD800 ∨ 0xE000 ≤ code then some (Char.ofNat code, rest)
  else if 0xDC00 ≤ code then none
  else
    match rest with
    | '\\' :: 'u' :: rest => do
        let (low, rest) ← hexFour rest
        if 0xDC00 ≤ low ∧ low < 0xE000 then
          some (Char.ofNat (0x10000 + (code - 0xD800) * 0x400 + (low - 0xDC00)), rest)
        else none
    | _ => none

def shortEscape? : Char → Option Char
  | '"' => some '"'
  | '\\' => some '\\'
  | '/' => some '/'
  | 'b' => some '\x08'
  | 'f' => some '\x0C'
  | 'n' => some '\n'
  | 'r' => some '\r'
  | 't' => some '\t'
  | _ => none

-- The rest of a string after its opening quote. Control characters have to be escaped.
def stringTail : Nat → Reader (List Char)
  | 0, _ => none
  | _ + 1, [] => none
  | fuel + 1, c :: rest =>
      if c = '"' then some ([], rest)
      else if c = '\\' then
        match rest with
        | [] => none
        | 'u' :: rest => do
            let (c, rest) ← unicodeEscape rest
            let (text, rest) ← stringTail fuel rest
            some (c :: text, rest)
        | letter :: rest => do
            let c ← shortEscape? letter
            let (text, rest) ← stringTail fuel rest
            some (c :: text, rest)
      else if c.toNat < 0x20 then none
      else do
        let (text, rest) ← stringTail fuel rest
        some (c :: text, rest)

def quoted : Reader String
  | '"' :: rest => do
      let (text, rest) ← stringTail (rest.length + 1) rest
      some (String.ofList text, rest)
  | _ => none

-- The digits of a number that fit into 64 bits together, and how many follow them.
def significand (value : Nat) : List Digit → Nat × Nat
  | [] => (value, 0)
  | d :: rest =>
      if value * 10 + d < UInt64.size then significand (value * 10 + d) rest
      else (value, rest.length + 1)

-- Powers of ten up to the greatest one that a double holds.
def maxPower : Nat := 308

def powerOfTen (n : Nat) : Float := Float.ofScientific 1 false n

-- The significand is scaled by one power of ten. Small numbers take several steps, numbers
-- beyond the range of doubles are refused.
def scaleFloat : Nat → Float → Int → Option Float
  | 0, x, _ => some x
  | fuel + 1, x, exponent =>
      if exponent.natAbs ≤ maxPower then
        if 0 ≤ exponent then
          let scaled := x * powerOfTen exponent.toNat
          if scaled.isInf then none else some scaled
        else some (x / powerOfTen exponent.natAbs)
      else if x == 0 then some x
      else if 0 ≤ exponent then none
      else scaleFloat fuel (x / powerOfTen maxPower) (exponent + maxPower)

-- Exponents count up to the limits of 32 bits. Beyond them a number is zero or out of range.
def exponentLimit : Nat := 2147483647

def saturate (n : Int) : Int := max (-2147483648) (min 2147483647 n)

def scaled (negative : Bool) (value : Nat) (exponent : Int) : Option Float :=
  let fuel := exponent.natAbs / maxPower + 2
  (scaleFloat (min fuel 16) (UInt64.ofNat value).toFloat exponent).map fun x =>
    if negative then -x else x

-- The exponent part, when there is one.
def exponentPart : Reader (Option (Bool × Nat))
  | 'e' :: rest => sign rest
  | 'E' :: rest => sign rest
  | chars => some (none, chars)
where
  sign : Reader (Option (Bool × Nat))
    | '+' :: rest => digits false rest
    | '-' :: rest => digits true rest
    | rest => digits false rest
  digits (negative : Bool) : Reader (Option (Bool × Nat)) := fun chars =>
    match Digits.scan chars with
    | ([], _) => none
    | (found, rest) => some (some (negative, Digits.toNat found), rest)

def fractionPart : Reader (Option (List Digit))
  | '.' :: rest =>
      match Digits.scan rest with
      | ([], _) => none
      | (digits, rest) => some (some digits, rest)
  | chars => some (none, chars)

-- The value of a number with the given parts. Whole numbers without fraction and exponent stay
-- integers as long as 64 bits hold them, except for minus zero.
def numberOf (negative : Bool) (integer : List Digit) (fraction : Option (List Digit))
    (exponent : Option (Bool × Nat)) : Option Json :=
  let (whole, dropped) := significand 0 integer
  match fraction, exponent with
  | none, none =>
      if dropped = 0 then
        if !negative then
          some (if whole < 2 ^ 63 then .int (Int64.ofNat whole) else .uint (UInt64.ofNat whole))
        else if whole = 0 ∨ 2 ^ 63 < whole then some (.float (-(UInt64.ofNat whole).toFloat))
        else some (.int (Int64.ofInt (-whole)))
      else (scaled negative whole dropped).map .float
  | fraction, exponent =>
      let digits := fraction.getD []
      let (value, cut) := significand whole digits
      let start : Int := (dropped : Int) - ((digits.length - cut : Nat) : Int)
      match exponent with
      | none => (scaled negative value start).map .float
      | some (below, power) =>
          if exponentLimit < power then
            if value ≠ 0 ∧ !below then none
            else some (.float (if negative then -0.0 else 0.0))
          else
            let total := saturate (if below then start - power else start + power)
            (scaled negative value total).map .float

-- No digit may follow a leading zero.
def integerPart : Reader (List Digit) := fun chars =>
  match Digits.scan chars with
  | ([], _) => none
  | (d :: digits, rest) => if d = 0 ∧ digits ≠ [] then none else some (d :: digits, rest)

def unsigned (negative : Bool) : Reader Json := fun chars => do
  let (integer, rest) ← integerPart chars
  let (fraction, rest) ← fractionPart rest
  let (exponent, rest) ← exponentPart rest
  let number ← numberOf negative integer fraction exponent
  some (number, rest)

def number : Reader Json
  | '-' :: rest => unsigned true rest
  | chars => unsigned false chars

-- One item, then more items after commas, up to the closing bracket.
def itemsTail (value : Reader Json) : Nat → Reader (List Json)
  | 0, _ => none
  | fuel + 1, chars => do
      let (item, rest) ← value (skip chars)
      match skip rest with
      | ']' :: rest => some ([item], rest)
      | ',' :: rest => do
          let (items, rest) ← itemsTail value fuel rest
          some (item :: items, rest)
      | _ => none

def membersTail (value : Reader Json) : Nat → Reader (List (String × Json))
  | 0, _ => none
  | fuel + 1, chars => do
      let (name, rest) ← quoted (skip chars)
      let rest ← match skip rest with
        | ':' :: rest => some rest
        | _ => none
      let (member, rest) ← value (skip rest)
      match skip rest with
      | '}' :: rest => some ([(name, member)], rest)
      | ',' :: rest => do
          let (members, rest) ← membersTail value fuel rest
          some ((name, member) :: members, rest)
      | _ => none

-- A repeated name keeps its first place and takes its last value.
def ofMembers (members : List (String × Json)) : List (String × Json) :=
  members.foldl (fun object member => Members.put object member.1 member.2) []

-- A value at the front. Arrays and objects may be nested as deep as `depth`.
def value : Nat → Reader Json
  | _, [] => none
  | _, 'n' :: 'u' :: 'l' :: 'l' :: rest => some (.null, rest)
  | _, 't' :: 'r' :: 'u' :: 'e' :: rest => some (.bool true, rest)
  | _, 'f' :: 'a' :: 'l' :: 's' :: 'e' :: rest => some (.bool false, rest)
  | _, '"' :: rest => (quoted ('"' :: rest)).map fun (text, rest) => (.string text, rest)
  | 0, '[' :: _ => none
  | depth + 1, '[' :: rest =>
      match skip rest with
      | ']' :: rest => some (.array [], rest)
      | rest => (itemsTail (value depth) (rest.length + 1) rest).map fun (items, rest) =>
          (.array items, rest)
  | 0, '\x7b' :: _ => none
  | depth + 1, '\x7b' :: rest =>
      match skip rest with
      | '\x7d' :: rest => some (.object [], rest)
      | rest => (membersTail (value depth) (rest.length + 1) rest).map fun (members, rest) =>
          (.object (ofMembers members), rest)
  | _, chars => number chars

-- Documents nested deeper than this are refused.
def maxDepth : Nat := 127

-- The document that the text holds, and nothing besides it.
def read? (text : String) : Option Json := do
  let (document, rest) ← value maxDepth (skip text.toList)
  if skip rest = [] then some document else none

end EventText.Json
