import EventText.Number.Digits
import EventText.Regex.Basic
import EventText.Unicode.CharSet

namespace EventText

namespace Regex

-- Ranges of bytes that stand one behind the other.
abbrev ByteRanges := List (Nat × Nat)

-- The numbers of a range in base 64, by ranges of their digits. The first digit is written from
-- `lead` on, all others from 0x80 on, and there are `count` of these.
def digitRanges (lead : Nat) : Nat → Nat → Nat → List ByteRanges
  | 0, low, high => [[(lead + low, lead + high)]]
  | count + 1, low, high =>
      let unit := 64 ^ (count + 1)
      let behind (digit low high : Nat) : List ByteRanges :=
        (digitRanges 0x80 count low high).map ((lead + digit, lead + digit) :: ·)
      let first := low / unit
      let last := high / unit
      if first = last then behind first (low % unit) (high % unit)
      else
        -- Between the first and the last digit every other digit may follow.
        let firstWhole := if low % unit = 0 then first else first + 1
        let endWhole := if high % unit = unit - 1 then last + 1 else last
        (if firstWhole = first then [] else behind first (low % unit) (unit - 1))
          ++ (if firstWhole = endWhole then []
            else [(lead + firstWhole, lead + endWhole - 1)
              :: List.replicate (count + 1) (0x80, 0xBF)])
          ++ (if endWhole = last then behind last 0 (high % unit) else [])

-- Codes whose encodings have the same length: how many bytes follow the first one, and what the
-- first one is counted from.
structure EncodedBlock where
  low : Nat
  high : Nat
  lead : Nat
  following : Nat

def encodedBlocks : List EncodedBlock := [
  ⟨0, 0x7F, 0, 0⟩, ⟨0x80, 0x7FF, 0xC0, 1⟩, ⟨0x800, 0xD7FF, 0xE0, 2⟩, ⟨0xE000, 0xFFFF, 0xE0, 2⟩,
  ⟨0x10000, 0x10FFFF, 0xF0, 3⟩]

-- The UTF-8 encodings of the characters of a set, in ascending order.
def byteRanges (set : CharSet) : List ByteRanges :=
  set.ranges.flatMap fun (low, high) =>
    encodedBlocks.flatMap fun block =>
      let low := max low block.low
      let high := min high block.high
      if low ≤ high then digitRanges block.lead block.following low high else []

end Regex

-- The size of a regular expression is the number of bytes that an automaton takes which reads
-- UTF-8 byte by byte, from the front or from the back.
inductive Direction
  | forward
  | backward

namespace Regex

def stateSize : Nat := 32

def transitionSize : Nat := 8

-- From a state that branches to one of its alternatives.
def linkSize : Nat := 4

-- Where a sequence can start, each start with what follows it. Starts next to each other are the
-- same if their ranges are.
def branches : List ByteRanges → List ((Nat × Nat) × List ByteRanges)
  | [] => []
  | [] :: rest => branches rest
  | (range :: tail) :: rest =>
      match branches rest with
      | (next, tails) :: more =>
          if next = range then (range, tail :: tails) :: more
          else (range, [tail]) :: (next, tails) :: more
      | [] => [(range, [tail])]

-- The states on the way through sequences of at most as many bytes. A state is what can follow.
def statesBefore : Nat → List ByteRanges → List (List ByteRanges)
  | 0, _ => []
  | length + 1, sequences =>
      match branches sequences with
      | [] => []
      | found => sequences :: found.flatMap fun (_, tails) => statesBefore length tails

def commonLength (a b : ByteRanges) : Nat := ((a.zip b).takeWhile fun (x, y) => x == y).length

-- How many states there are if sequences share what they start with.
def sharedStates (previous : ByteRanges) : List ByteRanges → Nat
  | [] => 0
  | sequence :: rest =>
      sequence.length - commonLength previous sequence + sharedStates sequence rest

-- From the front states with the same future are one; from the back there is a state for every
-- range of bytes.
def setSize (direction : Direction) (set : CharSet) : Nat :=
  match set.onlyCode? with
  | some code => stateSize * (Char.ofNat code).utf8Size
  | none =>
      if set.isAscii then 2 * stateSize + transitionSize * set.ranges.length
      else
        let sequences := byteRanges set
        match direction with
        | .forward =>
            stateSize + ((statesBefore 4 sequences).eraseDups.map fun state =>
              stateSize + transitionSize * (branches state).length).sum
        | .backward =>
            2 * stateSize + linkSize * sequences.length + stateSize * sharedStates [] sequences

-- The encoding of the only text that matches, if the regular expression is a plain text.
def text? : Regex → Option (List UInt8)
  | char set => set.onlyCode?.map fun code => String.utf8EncodeChar (Char.ofNat code)
  | both first second => do return (← first.text?) ++ (← second.text?)
  | _ => none

-- Words are cut where one of them ends, since words behind it come after it.
def chunks : List (List UInt8) → List (List (UInt8 × List UInt8))
  | [] => [[]]
  | [] :: rest => [] :: chunks rest
  | (b :: tail) :: rest =>
      match chunks rest with
      | chunk :: more => ((b, tail) :: chunk) :: more
      | [] => [[(b, tail)]]

-- Words that end at once before any other word are the same.
def skipRepeated : List (List UInt8) → List (List UInt8)
  | [] :: [] :: rest => skipRepeated ([] :: rest)
  | words => words

-- A tree of words of at most the given length.
def treeSize : Nat → List (List UInt8) → Nat
  | 0, _ => 0
  | length + 1, words =>
      let found := chunks (skipRepeated words)
      let filled := found.filter fun chunk => !chunk.isEmpty
      if filled.isEmpty then 0
      else
        let chunkSize (chunk : List (UInt8 × List UInt8)) : Nat :=
          let starts := (chunk.map (·.1)).eraseDups
          let tails (b : UInt8) := chunk.filterMap fun (first, tail) =>
            if first = b then some tail else none
          stateSize + (if starts.length = 1 then 0 else transitionSize * starts.length)
            + (starts.map fun b => treeSize length (tails b)).sum
        stateSize + linkSize * (filled.length + found.length - 1) + (filled.map chunkSize).sum

def wordsSize (direction : Direction) (words : List (List UInt8)) : Nat :=
  let words := match direction with
    | .forward => words
    | .backward => words.map List.reverse
  stateSize + treeSize ((words.map List.length).foldl max 0) words

-- The least length of a match, if every part can match.
def minLength? : Regex → Option Nat
  | empty | anchor _ => some 0
  | char set => if set.ranges.isEmpty then none else some 1
  | both first second => do return (← first.minLength?) + (← second.minLength?)
  | either first second => do return min (← first.minLength?) (← second.minLength?)
  | repeated content least _ => content.minLength?.map (· * least)
  | group content => content.minLength?

-- A round is as large as the content. A state that branches has two links.
def repeatedSize (content : Nat) (consumes : Bool) (least : Nat) (most : Option Nat) : Nat :=
  let branch := stateSize + 2 * linkSize
  match most with
  | none =>
      if least = 0 then
        if consumes then content + branch else content + 2 * branch + stateSize
      else least * content + branch
  | some most =>
      let required := if least = 0 then stateSize else least * content
      if least = 0 ∧ most = 1 then content + branch + stateSize
      else if least = most then required
      else required + stateSize + (most - least) * (branch + content)

-- An alternative is counted with the link to it.
def sizeWithin (direction : Direction) (isAlternative : Bool) : Regex → Nat
  | either first second =>
      let size := first.sizeWithin direction true + second.sizeWithin direction true
      if isAlternative then size
      else
        match (either first second).alternatives.mapM text? with
        | some words => wordsSize direction words
        | none => 2 * stateSize + size
  | empty | anchor _ => link isAlternative + stateSize
  | char set => link isAlternative + setSize direction set
  | both first second =>
      link isAlternative + first.sizeWithin direction false + second.sizeWithin direction false
  | repeated content least most =>
      let consumes := content.minLength?.any (· > 0)
      link isAlternative
        + repeatedSize (content.sizeWithin direction false) consumes least most
  | group content =>
      let ends := match direction with
        | .forward => 2 * stateSize
        | .backward => 0
      link isAlternative + ends + content.sizeWithin direction false
where
  link (isAlternative : Bool) : Nat := if isAlternative then linkSize else 0

-- Whether a match can only begin where an anchor holds.
def beginsWith (a : Anchor) : Regex → Bool
  | empty | char _ => false
  | anchor b => a == b
  | both first second =>
      first.beginsWith a || (first.isZeroWidth && second.beginsWith a)
  | either first second => first.beginsWith a && second.beginsWith a
  | repeated content least _ => least > 0 && content.beginsWith a
  | group content => content.beginsWith a

def endsWith (a : Anchor) : Regex → Bool
  | empty | char _ => false
  | anchor b => a == b
  | both first second => second.endsWith a || (second.isZeroWidth && first.endsWith a)
  | either first second => first.endsWith a && second.endsWith a
  | repeated content least _ => least > 0 && content.endsWith a
  | group content => content.endsWith a

-- The automaton skips any bytes before a match, unless that can only begin at the end of the text
-- where it starts. From the front it also keeps where the match is.
def size (direction : Direction) (r : Regex) : Nat :=
  let (isBound, ends) := match direction with
    | .forward => (r.beginsWith .textStart, 2 * stateSize)
    | .backward => (r.endsWith .textEnd, 0)
  let skip :=
    if isBound then stateSize
    else repeatedSize (2 * stateSize + transitionSize) true 0 none
  skip + ends + r.sizeWithin direction false + stateSize

-- Larger expressions are not accepted.
def maxSize : Nat := 10 * 2 ^ 20

def fits (r : Regex) : Bool := r.size .forward ≤ maxSize && r.size .backward ≤ maxSize

end Regex

end EventText
