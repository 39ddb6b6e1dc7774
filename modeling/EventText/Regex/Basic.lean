import EventText.Unicode.CharSet

namespace EventText

-- Conditions on a place between two characters.
inductive Anchor
  | textStart
  | textEnd
  | lineStart (crlf : Bool)
  | lineEnd (crlf : Bool)
  | boundary (word : CharSet)
  | notBoundary (word : CharSet)
  | wordStart (word : CharSet)
  | wordEnd (word : CharSet)
  | beforeWord (word : CharSet)
  | afterWord (word : CharSet)
deriving DecidableEq

-- Regular expressions. Whether a repetition prefers many or few rounds is left out: it changes
-- neither whether there is a match nor where the first one starts. A group, whose match would be
-- remembered, matches what its content matches, but takes more room.
inductive Regex
  | empty
  | char (set : CharSet)
  | anchor (a : Anchor)
  | both (first second : Regex)
  | either (first second : Regex)
  | repeated (content : Regex) (least : Nat) (most : Option Nat)
  | group (content : Regex)
deriving DecidableEq

namespace Regex

-- Nothing is left of an empty part in a sequence.
def andThen : Regex → Regex → Regex
  | empty, second => second
  | first, empty => first
  | first, second => both first second

def alternatives : Regex → List Regex
  | either first second => first.alternatives ++ second.alternatives
  | r => [r]

def set? : Regex → Option CharSet
  | char set => some set
  | _ => none

def ofAlternatives : List Regex → Regex
  | [] => char .empty
  | [r] => r
  | r :: rest => either r (ofAlternatives rest)

def ofSequence (parts : List Regex) : Regex := parts.foldr andThen empty

-- Nothing but one text matches.
def isText : Regex → Bool
  | char set => set.onlyCode?.isSome
  | both first second => first.isText && second.isText
  | _ => false

def parts : Regex → List Regex
  | empty => []
  | both first second => first.parts ++ second.parts
  | r => [r]

-- Characters of a text that stand next to each other are one part.
def joinTexts : List Regex → List Regex
  | [] => []
  | r :: rest =>
      match joinTexts rest with
      | next :: more => if r.isText && next.isText then both r next :: more else r :: next :: more
      | [] => [r]

-- Alternatives that are all single characters, or all sets of several, are one set.
def choiceOfSets? (alternatives : List Regex) : Option Regex := do
  let sets ← alternatives.mapM set?
  if sets.all (·.onlyCode?.isSome) || sets.all (·.onlyCode?.isNone) then
    return char (CharSet.unions sets)
  else none

def commonStart (a b : List Regex) : List Regex :=
  ((a.zip b).takeWhile fun (x, y) => x == y).map (·.1)

-- What sequences have in common at the start comes before the choice of what they end with.
def choiceOfEnds? (alternatives : List Regex) : Option Regex :=
  match alternatives.map fun r => joinTexts r.parts with
  | [] => none
  | first :: rest =>
      let start := rest.foldl commonStart first
      if start.isEmpty || (first :: rest).any (·.length < 2) then none
      else
        let ends := (first :: rest).flatMap fun sequence =>
          (ofSequence (sequence.drop start.length)).alternatives
        some (ofSequence (start ++ [(choiceOfSets? ends).getD (ofAlternatives ends)]))

def choice (parts : List Regex) : Regex :=
  let parts := parts.flatMap alternatives
  if parts.length = 1 then ofAlternatives parts
  else (choiceOfSets? parts <|> choiceOfEnds? parts).getD (ofAlternatives parts)

-- Only the empty text can match.
def isZeroWidth : Regex → Bool
  | empty | anchor _ => true
  | char _ => false
  | both first second | either first second => first.isZeroWidth && second.isZeroWidth
  | repeated content _ _ | group content => content.isZeroWidth

-- Rounds that cannot get any further are not needed: one is as good as many.
def times (content : Regex) (least : Nat) (most : Option Nat) : Regex :=
  let (least, most) :=
    if content.isZeroWidth then (min least 1, some (min (most.getD 1) 1)) else (least, most)
  if most = some 0 then empty
  else if least = 1 ∧ most = some 1 then content
  else repeated content least most

end Regex

end EventText
