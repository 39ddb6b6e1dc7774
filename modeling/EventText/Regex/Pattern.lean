import EventText.Unicode.CharSet

namespace EventText.Regex

inductive Flag
  | ignoreCase
  | multiLine
  | dotAll
  | swapGreed
  | unicode
  | crlf
  | extended
deriving DecidableEq

def Flag.ofChar? : Char → Option Flag
  | 'i' => some ignoreCase
  | 'm' => some multiLine
  | 's' => some dotAll
  | 'U' => some swapGreed
  | 'u' => some unicode
  | 'R' => some crlf
  | 'x' => some extended
  | _ => none

-- A character that stands for itself. Two hexadecimal digits behind an `x` name a byte instead
-- where Unicode is switched off.
structure Literal where
  char : Char
  isByte : Bool

inductive Sign
  | lineStart
  | lineEnd
  | textStart
  | textEnd
  | boundary
  | notBoundary
  | wordStart
  | wordEnd
  | beforeWord
  | afterWord

-- Sets that have a name of their own.
inductive NamedSet
  | digit
  | space
  | word
  | property (query : List Char)

inductive SetOperator
  | intersection
  | difference
  | symmetricDifference

-- The inside of brackets. One item stands for itself; none or several of them are a list.
inductive ClassItem
  | literal (l : Literal)
  | range (low high : Literal)
  | ascii (negated : Bool) (set : CharSet)
  | named (negated : Bool) (set : NamedSet)
  | brackets (negated : Bool) (content : ClassItem)
  | items (parts : List ClassItem)
  | operation (op : SetOperator) (left right : ClassItem)

-- Patterns as they are written. Flags on their own hold up to the end of the group around them.
inductive Pattern
  | nothing
  | flags (changes : List (Flag × Bool))
  | literal (l : Literal)
  | dot
  | sign (s : Sign)
  | named (negated : Bool) (set : NamedSet)
  | brackets (negated : Bool) (content : ClassItem)
  | repeated (content : Pattern) (least : Nat) (most : Option Nat)
  | group (content : Pattern)
  | scope (changes : List (Flag × Bool)) (content : Pattern)
  | sequence (parts : List Pattern)
  | choice (parts : List Pattern)

namespace ClassItem

def ofList : List ClassItem → ClassItem
  | [item] => item
  | parts => items parts

mutual

-- How deep lists, brackets and operators are nested.
def depth : ClassItem → Nat
  | literal _ | range _ _ | ascii _ _ | named _ _ | items [] => 0
  | brackets _ content => content.depth + 1
  | items (first :: rest) => max first.depth (depthOfList rest) + 1
  | operation _ left right => max left.depth right.depth + 1

def depthOfList : List ClassItem → Nat
  | [] => 0
  | item :: rest => max item.depth (depthOfList rest)

end

end ClassItem

namespace Pattern

def ofSequence : List Pattern → Pattern
  | [] => nothing
  | [p] => p
  | parts => sequence parts

def ofChoice : List Pattern → Pattern
  | [p] => p
  | parts => choice parts

mutual

def depth : Pattern → Nat
  | nothing | flags _ | literal _ | dot | sign _ | named _ _ => 0
  | brackets _ content => content.depth + 1
  | repeated content _ _ | group content | scope _ content => content.depth + 1
  | sequence parts | choice parts => depthOfList parts + 1

def depthOfList : List Pattern → Nat
  | [] => 0
  | p :: rest => max p.depth (depthOfList rest)

end

-- Patterns that are nested deeper are not accepted.
def maxDepth : Nat := 250

end Pattern

end EventText.Regex
