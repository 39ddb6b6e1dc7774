import EventText.Text.Classes

namespace EventText

-- A set of characters: the ranges of their codes, in ascending order and with gaps between them.
structure CharSet where
  ranges : List (Nat × Nat)
deriving DecidableEq

namespace CharSet

def contains (set : CharSet) (c : Char) : Bool := Text.inRanges c.toNat set.ranges

def empty : CharSet := ⟨[]⟩

def single (c : Char) : CharSet := ⟨[(c.toNat, c.toNat)]⟩

def range (low high : Char) : CharSet := ⟨[(low.toNat, high.toNat)]⟩

def ascii : CharSet := ⟨[(0, 0x7F)]⟩

-- Ranges that overlap or touch become one. The first two numbers are the range that grows.
def joinFrom (low high : Nat) : List (Nat × Nat) → List (Nat × Nat)
  | [] => [(low, high)]
  | (first, last) :: rest =>
      if first ≤ high + 1 then joinFrom low (max high last) rest
      else (low, high) :: joinFrom first last rest

-- Ranges in ascending order as a set.
def ofSorted : List (Nat × Nat) → CharSet
  | [] => empty
  | (low, high) :: rest => ⟨joinFrom low high rest⟩

-- Puts a range in its place among ranges in ascending order. Once it has its place, `behind`
-- goes on with the ranges that are left.
def mergeInto (range : Nat × Nat) (behind : List (Nat × Nat) → List (Nat × Nat)) :
    List (Nat × Nat) → List (Nat × Nat)
  | [] => range :: behind []
  | next :: rest =>
      if range.1 ≤ next.1 then range :: behind (next :: rest)
      else next :: mergeInto range behind rest

def merge : List (Nat × Nat) → List (Nat × Nat) → List (Nat × Nat)
  | [], others => others
  | range :: rest, others => mergeInto range (merge rest) others

def union (a b : CharSet) : CharSet := ofSorted (merge a.ranges b.ranges)

-- The gaps between the ranges, from a code on.
def gapsFrom (next : Nat) : List (Nat × Nat) → List (Nat × Nat)
  | [] => if next ≤ 0x10FFFF then [(next, 0x10FFFF)] else []
  | (low, high) :: rest =>
      if next < low then (next, low - 1) :: gapsFrom (high + 1) rest else gapsFrom (high + 1) rest

def complement (a : CharSet) : CharSet := ⟨gapsFrom 0 a.ranges⟩

def intersection (a b : CharSet) : CharSet := complement (union a.complement b.complement)

def difference (a b : CharSet) : CharSet := complement (union a.complement b)

instance : Union CharSet := ⟨union⟩

instance : Inter CharSet := ⟨intersection⟩

instance : SDiff CharSet := ⟨difference⟩

def any : CharSet := empty.complement

def symmetricDifference (a b : CharSet) : CharSet := (a \ b) ∪ (b \ a)

def unions (sets : List CharSet) : CharSet := sets.foldl union empty

-- Ranges in ascending order, each with the distance of its members.
def ofRuns (runs : List (Nat × Nat × Nat)) : CharSet :=
  ofSorted (runs.flatMap fun (first, last, step) =>
    if step = 1 then [(first, last)]
    else (List.range ((last - first) / step + 1)).map fun i =>
      (first + i * step, first + i * step))

def asciiSpace : CharSet := range '\t' '\r' ∪ single ' '

def asciiWord : CharSet := range '0' '9' ∪ range 'A' 'Z' ∪ single '_' ∪ range 'a' 'z'

def isAscii (set : CharSet) : Bool := set.ranges.all fun (_, high) => high < 0x80

-- The only member of a set that has one.
def onlyCode? (set : CharSet) : Option Nat :=
  match set.ranges with
  | [(low, high)] => if low = high then some low else none
  | _ => none

end CharSet

end EventText
