import EventText.Text.Utf8
import EventText.Time.Timestamp

namespace EventText

-- The pieces of a timestamp pattern. The number is the length of the run of pattern letters.
inductive LayoutPiece
  | literal (text : List Char)
  | year (count : Nat)
  | month (count : Nat)
  | day (count : Nat)
  | hour24 (count : Nat)
  | hour12 (count : Nat)
  | minute (count : Nat)
  | second (count : Nat)
  | fraction (digits : Nat)
  | trimmedFraction (digits : Nat) (dot : Bool)
  | halfDay (count : Nat)
  | offset (count : Nat)
  | fullOffset
deriving DecidableEq

-- A compiled pattern. Some patterns show the time in UTC instead of the timestamp's own zone.
structure Layout where
  pieces : List LayoutPiece
  utc : Bool
deriving DecidableEq

-- Why a timestamp cannot be written: a number should have more places than a field can, or two
-- windows that were reserved were both too small. The program stops in either case.
inductive LayoutFault
  | width
  | exhausted (reserved : Nat)
deriving DecidableEq

-- The most places that can be asked for where the number of them is only known when the program
-- runs.
def maxFieldWidth : Nat := 65535

namespace LayoutPiece

-- Years have as many places as the pattern has letters. All other numbers have nine at the most.
def isTooWide : LayoutPiece → Bool
  | .year count => maxFieldWidth < count
  | _ => false

-- A bound on the bytes that the piece writes.
def maxLength : LayoutPiece → Nat
  | .literal text => Text.encodedLength text
  | .year count => max count 7
  | .month count | .day count => if 4 ≤ count then 9 else if count = 3 then 3 else 2
  | .fraction digits => digits
  | .trimmedFraction digits dot => digits + (if dot then 1 else 0)
  | .offset _ | .fullOffset => 6
  | _ => 2

end LayoutPiece

namespace Layout

def monthNames : List String :=
  ["January", "February", "March", "April", "May", "June", "July", "August", "September",
   "October", "November", "December"]

def dayNames : List String :=
  ["Sunday", "Monday", "Tuesday", "Wednesday", "Thursday", "Friday", "Saturday"]

def nameText (names : List String) (index : Nat) : List Char := (names.getD index "").toList

-- One letter writes the number plainly, more letters write it in two digits.
def shortOrTwo (count n : Nat) : List Char :=
  if count = 1 then natText n else natTextPadded 2 n

-- A number up to two letters, an abbreviated name for three, the name beyond.
def numberOrName (count n : Nat) (name : List Char) : List Char :=
  if count ≤ 2 then shortOrTwo count n else if count = 3 then name.take 3 else name

def dropZeros (chars : List Char) : List Char := (chars.reverse.dropWhile (· == '0')).reverse

-- The first digits of the fraction of the second, in which a leap second counts as its end.
def fractionText (t : Timestamp) (digits : Nat) : List Char :=
  natTextPadded digits (min t.nanosecond 999999999 / 10 ^ (9 - digits))

-- The text of a piece that is not too wide.
def pieceText (t : Timestamp) : LayoutPiece → List Char
  | .literal text => text
  | .year count =>
      if count = 2 then natTextPadded 2 (t.year % 100).toNat else intTextPadded count t.year
  | .month count => numberOrName count t.month (nameText monthNames (t.month - 1))
  | .day count => numberOrName count t.day (nameText dayNames t.weekday)
  | .hour24 count => shortOrTwo count t.hour
  | .hour12 count => shortOrTwo count (if t.hour % 12 = 0 then 12 else t.hour % 12)
  | .minute count => shortOrTwo count t.minute
  | .second count => shortOrTwo count t.second
  | .fraction digits => fractionText t digits
  | .trimmedFraction digits dot =>
      match dropZeros (fractionText t digits) with
      | [] => []
      | kept => if dot then '.' :: kept else kept
  | .halfDay count => (if t.hour < 12 then ['A', 'M'] else ['P', 'M']).take count
  | .offset count =>
      let sign := if t.offset < 0 then '-' else '+'
      if count = 1 then sign :: natText (t.offset.natAbs / 3600)
      else if count = 2 then sign :: natTextPadded 2 (t.offset.natAbs / 3600)
      else Timestamp.offsetText t.offset
  | .fullOffset => Timestamp.offsetText t.offset

-- Literal characters gathered so far become a piece when a pattern letter follows.
def flush (literal : List Char) (pieces : List LayoutPiece) : List LayoutPiece :=
  if literal.isEmpty then pieces else .literal literal :: pieces

-- The pattern letters. Fractions have at most nine digits.
def letterPiece (c : Char) (count : Nat) : Option LayoutPiece :=
  match c with
  | 'y' => some (.year count)
  | 'M' => some (.month count)
  | 'd' => some (.day count)
  | 'H' => some (.hour24 count)
  | 'h' => some (.hour12 count)
  | 'm' => some (.minute count)
  | 's' => some (.second count)
  | 'f' => some (.fraction (min count 9))
  | 't' => some (.halfDay count)
  | 'z' => some (.offset count)
  | _ => none

def endsWithDot (literal : List Char) : Bool := literal.getLast? == some '.'

-- Reads a pattern. A trimmed fraction takes the point before it along, quotes enclose literal
-- text and may stay open, a backslash escapes one character, and a percent sign is skipped.
-- Every step consumes a character, so the length of the pattern is fuel enough.
def readFrom : Nat → List Char → List Char → List LayoutPiece
  | 0, literal, _ => flush literal []
  | _ + 1, literal, [] => flush literal []
  | fuel + 1, literal, c :: rest =>
      let count := (rest.takeWhile (· == c)).length + 1
      let beyond := rest.dropWhile (· == c)
      match letterPiece c count with
      | some piece => flush literal (piece :: readFrom fuel [] beyond)
      | none =>
          if c = 'F' then
            let dot := endsWithDot literal
            flush (if dot then literal.dropLast else literal)
              (.trimmedFraction (min count 9) dot :: readFrom fuel [] beyond)
          else if c = 'K' then flush literal (.fullOffset :: readFrom fuel [] rest)
          else if c = '\'' ∨ c = '"' then
            readFrom fuel (literal ++ rest.takeWhile (· != c)) ((rest.dropWhile (· != c)).drop 1)
          else if c = '\\' then readFrom fuel (literal ++ rest.take 1) (rest.drop 1)
          else if c = '%' then readFrom fuel literal rest
          else readFrom fuel (literal ++ [c]) rest

def read (pattern : List Char) : List LayoutPiece := readFrom (pattern.length + 1) [] pattern

-- Patterns of one letter that stand for a whole layout, and whether they show UTC.
def standardPattern (pattern : String) : Option (String × Bool) :=
  match pattern with
  | "O" | "o" => some ("yyyy'-'MM'-'dd'T'HH':'mm':'ss'.'fffffffK", false)
  | "s" => some ("yyyy'-'MM'-'dd'T'HH':'mm':'ss", false)
  | "u" => some ("yyyy'-'MM'-'dd HH':'mm':'ss'Z'", true)
  | "R" | "r" => some ("ddd, dd MMM yyyy HH':'mm':'ss 'GMT'", true)
  | "d" => some ("MM/dd/yyyy", false)
  | "D" => some ("dddd, dd MMMM yyyy", false)
  | "t" => some ("HH:mm", false)
  | "T" => some ("HH:mm:ss", false)
  | "g" => some ("MM/dd/yyyy HH:mm", false)
  | "G" => some ("MM/dd/yyyy HH:mm:ss", false)
  | _ => none

def ofPattern (pattern : String) : Layout :=
  let (expanded, utc) := (standardPattern pattern).getD (pattern, false)
  ⟨read expanded.toList, utc⟩

-- The layout of a timestamp that has no pattern.
def roundTrip : Layout := ofPattern "O"

def ofPattern? : Option String → Layout
  | some pattern => ofPattern pattern
  | none => roundTrip

def maxLength (layout : Layout) : Nat := (layout.pieces.map LayoutPiece.maxLength).sum

def isTooWide (layout : Layout) : Bool := layout.pieces.any LayoutPiece.isTooWide

-- A timestamp on the clock that the layout shows.
def zoned (layout : Layout) (t : Timestamp) : Timestamp := if layout.utc then t.toUtc else t

-- The width of a field is looked at before anything is written.
def pieceText? (t : Timestamp) (piece : LayoutPiece) : Except LayoutFault (List Char) :=
  if piece.isTooWide then .error .width else .ok (pieceText t piece)

-- Writes the pieces one after the other, in as many bytes as there is room for or in any number of
-- them. A piece that does not fit any more ends the attempt.
def writeTo (t : Timestamp) (room : Option Nat) :
    List LayoutPiece → Except LayoutFault (Option (List Char))
  | [] => .ok (some [])
  | piece :: rest => do
      let text ← pieceText? t piece
      let length := Text.encodedLength text
      if room.any (· < length) then return none
      let others ← writeTo t (room.map (· - length)) rest
      return others.map (text ++ ·)

-- The text of a timestamp. There is always room for it.
def format? (layout : Layout) (t : Timestamp) : Except LayoutFault (List Char) := do
  let text ← writeTo (layout.zoned t) none layout.pieces
  return text.getD []

-- The bytes that are put at the start of a span of the given size, if they fit.
def fill? (layout : Layout) (t : Timestamp) (room : Nat) :
    Except LayoutFault (Option Bytes) := do
  let text ← writeTo (layout.zoned t) (some room) layout.pieces
  return text.map fun text => text.flatMap String.utf8EncodeChar

-- The text where there is one. A timestamp that cannot be written stops the program, so that
-- nothing is ever shown for it.
def text (layout : Layout) (t : Timestamp) : List Char :=
  match layout.format? t with
  | .ok text => text
  | .error _ => []

end Layout

end EventText
