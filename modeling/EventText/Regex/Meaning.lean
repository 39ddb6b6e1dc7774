import EventText.Regex.Reader
import EventText.Regex.Size
import EventText.Unicode.Folding
import EventText.Unicode.Query

namespace EventText.Regex

-- The flags that are in force at a place of a pattern.
structure Mode where
  ignoreCase : Bool := false
  multiLine : Bool := false
  dotAll : Bool := false
  unicode : Bool := true
  crlf : Bool := false

namespace Mode

-- Whether repetitions prefer few rounds and how a pattern is laid out does not change its meaning.
def change (mode : Mode) : Flag × Bool → Mode
  | (.ignoreCase, value) => { mode with ignoreCase := value }
  | (.multiLine, value) => { mode with multiLine := value }
  | (.dotAll, value) => { mode with dotAll := value }
  | (.unicode, value) => { mode with unicode := value }
  | (.crlf, value) => { mode with crlf := value }
  | (.swapGreed, _) | (.extended, _) => mode

def changes (mode : Mode) (list : List (Flag × Bool)) : Mode := list.foldl change mode

def fold (mode : Mode) (set : CharSet) : CharSet :=
  if mode.ignoreCase then
    if mode.unicode then Unicode.foldCase set else Unicode.foldAsciiCase set
  else set

-- Without Unicode, sets must not reach beyond ASCII: they could match a part of a character.
def complementIf? (mode : Mode) (negated : Bool) (set : CharSet) : Option CharSet :=
  if !negated then some set else if mode.unicode then some set.complement else none

def word (mode : Mode) : CharSet := if mode.unicode then Unicode.word else .asciiWord

def anchor (mode : Mode) : Sign → Anchor
  | .lineStart => if mode.multiLine then .lineStart mode.crlf else .textStart
  | .lineEnd => if mode.multiLine then .lineEnd mode.crlf else .textEnd
  | .textStart => .textStart
  | .textEnd => .textEnd
  | .boundary => .boundary mode.word
  | .notBoundary => .notBoundary mode.word
  | .wordStart => .wordStart mode.word
  | .wordEnd => .wordEnd mode.word
  | .beforeWord => .beforeWord mode.word
  | .afterWord => .afterWord mode.word

def dot? (mode : Mode) : Option CharSet :=
  if !mode.unicode then none
  else if mode.dotAll then some .any
  else if mode.crlf then some (.any \ (.single '\n' ∪ .single '\r'))
  else some (.any \ .single '\n')

-- A byte beyond ASCII is only a part of a character.
def literal? (mode : Mode) (l : Literal) : Option CharSet :=
  if !mode.unicode && l.isByte && l.char.toNat ≥ 0x80 then none
  else some (mode.fold (.single l.char))

def namedSet? (mode : Mode) (negated : Bool) : NamedSet → Option CharSet
  | .digit =>
      mode.complementIf? negated (if mode.unicode then Unicode.decimalNumber else .range '0' '9')
  | .space => mode.complementIf? negated (if mode.unicode then Unicode.whiteSpace else .asciiSpace)
  | .word => mode.complementIf? negated mode.word
  | .property text => do
      if !mode.unicode then none
      let query ← Unicode.Query.ofText? text
      mode.complementIf? (negated != query.inverted) (mode.fold query.set)

-- Where members of a class are characters, without Unicode only those of ASCII are.
def member? (mode : Mode) (l : Literal) : Option Char :=
  if mode.unicode || l.char.toNat < 0x80 then some l.char else none

end Mode

def SetOperator.apply : SetOperator → CharSet → CharSet → CharSet
  | .intersection, a, b => a ∩ b
  | .difference, a, b => a \ b
  | .symmetricDifference, a, b => a.symmetricDifference b

namespace ClassItem

mutual

-- Case is folded before a set is negated and before two sets are joined.
def meaning? (mode : Mode) : ClassItem → Option CharSet
  | literal l => (mode.member? l).map CharSet.single
  | range low high => do return .range (← mode.member? low) (← mode.member? high)
  | ascii negated set => mode.complementIf? negated (mode.fold set)
  | named negated set => mode.namedSet? negated set
  | brackets negated content => do
      mode.complementIf? negated (mode.fold (← content.meaning? mode))
  | items parts => (meanings? mode parts).map CharSet.unions
  | operation op left right => do
      return op.apply (mode.fold (← left.meaning? mode)) (mode.fold (← right.meaning? mode))

def meanings? (mode : Mode) : List ClassItem → Option (List CharSet)
  | [] => some []
  | item :: rest => do return (← item.meaning? mode) :: (← meanings? mode rest)

end

end ClassItem

namespace Pattern

mutual

-- The meaning of a pattern, and the flags that are in force behind it.
def meaning? (mode : Mode) : Pattern → Option (Regex × Mode)
  | nothing => some (.empty, mode)
  | flags changes => some (.empty, mode.changes changes)
  | literal l => (mode.literal? l).map fun set => (.char set, mode)
  | dot => mode.dot?.map fun set => (.char set, mode)
  | sign s => some (.anchor (mode.anchor s), mode)
  | named negated set => (mode.namedSet? negated set).map fun set => (.char set, mode)
  | brackets negated content => do
      let set ← content.meaning? mode
      let set ← mode.complementIf? negated (mode.fold set)
      return (.char set, mode)
  | repeated content least most => do
      let (r, mode) ← content.meaning? mode
      return (r.times least most, mode)
  | group content => do
      let (r, _) ← content.meaning? mode
      return (.group r, mode)
  | scope changes content => do
      let (r, _) ← content.meaning? (mode.changes changes)
      return (r, mode)
  | sequence parts => do
      let (parts, mode) ← meanings? mode parts
      return (Regex.ofSequence parts, mode)
  | choice parts => do
      let (parts, mode) ← meanings? mode parts
      return (Regex.choice parts, mode)

def meanings? (mode : Mode) : List Pattern → Option (List Regex × Mode)
  | [] => some ([], mode)
  | part :: rest => do
      let (r, mode) ← part.meaning? mode
      let (parts, mode) ← meanings? mode rest
      return (r :: parts, mode)

end

end Pattern

-- Patterns whose automaton would be too large are not accepted.
def ofText? (text : List Char) : Option Regex := do
  let pattern ← Pattern.ofText? text
  let (r, _) ← pattern.meaning? {}
  if r.fits then return r else none

end EventText.Regex
