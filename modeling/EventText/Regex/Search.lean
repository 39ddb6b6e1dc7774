import EventText.Regex.Basic

namespace EventText

-- A place between two characters of a text, or at one of its ends.
structure Place where
  before : Option Char
  after : Option Char

namespace Place

def inWord (word : CharSet) (c : Option Char) : Bool := c.any word.contains

-- With `crlf` set a carriage return ends a line as well, and the pair of both ends only one.
def holds (place : Place) : Anchor → Bool
  | .textStart => place.before.isNone
  | .textEnd => place.after.isNone
  | .lineStart crlf =>
      place.before.isNone || place.before == some '\n'
        || (crlf && place.before == some '\r' && place.after != some '\n')
  | .lineEnd crlf =>
      if crlf then
        place.after.isNone || place.after == some '\r'
          || (place.after == some '\n' && place.before != some '\r')
      else place.after.isNone || place.after == some '\n'
  | .boundary word => inWord word place.before != inWord word place.after
  | .notBoundary word => inWord word place.before == inWord word place.after
  | .wordStart word => !inWord word place.before && inWord word place.after
  | .wordEnd word => inWord word place.before && !inWord word place.after
  | .beforeWord word => !inWord word place.before
  | .afterWord word => !inWord word place.after

-- All places of a text, from its start to its end.
def ofText (before : Option Char) : List Char → List Place
  | [] => [⟨before, none⟩]
  | c :: rest => ⟨before, some c⟩ :: ofText (some c) rest

end Place

-- A set of places of a text, one entry for each.
abbrev Places := List Bool

namespace Places

def union (a b : Places) : Places := List.zipWith (· || ·) a b

def restrict (places : List Place) (p : Place → Bool) (row : Places) : Places :=
  List.zipWith (fun place reached => reached && p place) places row

-- The places one character before.
def shift (row : Places) : Places := row.drop 1 ++ [false]

-- A step that is done over and over until nothing changes.
def rounds (step : Places → Places) : Nat → Places → Places
  | 0, row => row
  | count + 1, row =>
      let next := step row
      if next = row then row else rounds step count next

end Places

namespace Regex

-- The places from which a match can lead to one of the given places.
def starts (places : List Place) : Regex → Places → Places
  | empty, row => row
  | char set, row =>
      Places.restrict places (fun place => place.after.any set.contains) (Places.shift row)
  | anchor a, row => Places.restrict places (fun place => place.holds a) row
  | both first second, row => starts places first (starts places second row)
  | either first second, row => Places.union (starts places first row) (starts places second row)
  | repeated content least most, row =>
      let step := starts places content
      let more := match most with
        | some most => most - least
        | none => places.length
      Places.rounds step least (Places.rounds (fun row => Places.union row (step row)) more row)
  | group content, row => starts places content row

-- The position in characters at which the first match starts.
def search (r : Regex) (text : List Char) : Option Nat :=
  let places := Place.ofText none text
  (starts places r (places.map fun _ => true)).findIdx? id

end Regex

end EventText
