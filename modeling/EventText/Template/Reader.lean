import EventText.Expr.Reader
import EventText.Template.Piece

namespace EventText

-- Reads the text of a template. Text and holes alternate; inside a hole the reader of expressions
-- takes over and stops at the first token that it cannot use.
namespace TemplateReader

-- The text up to one of the stops, and the place of that stop.
def scanUntil (stops : List Char) (c : Cursor) : Option (List Char × Cursor) :=
  let beyond := c.skipWhile fun ch => !stops.contains ch
  match beyond.chars with
  | [] => none
  | _ => some (c.chars.takeWhile fun ch => !stops.contains ch, beyond)

def scanHole (stops : List Char) (c : Cursor) (start : Nat) :
    Except TemplateError (List Char × Cursor) :=
  match scanUntil stops c with
  | some found => .ok found
  | none => .error (.parse .unterminatedPlaceholder start)

def nonEmpty (chars : List Char) : Option String :=
  if chars.isEmpty then none else some (String.ofList chars)

-- The text before the last comma and the text after it.
def splitAtLastComma (chars : List Char) : Option (List Char × List Char) :=
  match chars.reverse.span (· != ',') with
  | (after, _ :: before) => some (before.reverse, after.reverse)
  | (_, []) => none

def isZeros (chars : List Char) : Bool := chars.all (· == '0')

-- An alignment may also stand behind the format. Zeros without a sign after the last comma are a
-- digit group of the format.
def splitAlignment (format : List Char) : List Char × Option Alignment :=
  match splitAtLastComma format with
  | none => (format, none)
  | some (before, after) =>
      if isZeros (Text.trim after) then (format, none)
      else
        match Alignment.read? after with
        | some alignment => (before, some alignment)
        | none => (format, none)

def readAlignment (chars : List Char) (position : Nat) : Except TemplateError Alignment :=
  match Alignment.read? chars with
  | some alignment => .ok alignment
  | none => .error (.parse (.invalidAlignment (String.ofList (Text.trim chars))) position)

-- Alignment, format and end of a hole whose expression has been read. `start` is the offset of
-- the hole.
def holeTail (s : Lookahead) (start : Nat) :
    Except TemplateError (Option Alignment × Option String × Cursor) := do
  match s.token with
  | .symbol .rightBrace => return (none, none, s.rest)
  | .symbol .comma =>
      let (chars, stop) ← scanHole [':', '\x7d'] s.rest start
      let alignment ← readAlignment chars s.current.stop
      if stop.chars.head? = some ':' then
        let (format, close) ← scanHole ['\x7d'] (stop.drop 1) start
        return (some alignment, nonEmpty format, close.drop 1)
      else return (some alignment, none, stop.drop 1)
  | .symbol .colon =>
      let (chars, close) ← scanHole ['\x7d'] s.rest start
      let (format, alignment) := splitAlignment chars
      return (alignment, nonEmpty format, close.drop 1)
  | _ => throw (s.unexpected .holeEnd)

def placeholder (c : Cursor) (start : Nat) : Except TemplateError (Piece × Cursor) := do
  let s ← Lookahead.ofCursor c
  if s.atSymbol .rightBrace then throw (.parse .emptyPlaceholder start)
  let (expression, s) ← ExprReader.expression s
  let (alignment, format, rest) ← holeTail s start
  return (.placeholder { expression, format, alignment, position := start }, rest)

def iterationName (s : Lookahead) : Except TemplateError (String × Lookahead) := do
  let next ← s.advance
  match s.token with
  | .identifier name => return (name, next)
  | _ => throw (s.unexpected .iterationName)

def iteration (s : Lookahead) : Except TemplateError (Directive × Lookahead) := do
  let (first, s) ← iterationName s
  let (second, s) ← if s.atSymbol .comma then do
      let (name, s) ← iterationName (← s.advance)
      pure (some name, s)
    else pure (none, s)
  let s ← s.expectKeyword "in"
  let (collection, s) ← ExprReader.expression s
  return (.openEach first second collection, s)

def asciiLower (text : String) : String := String.ofList (text.toList.map Char.toLower)

-- A directive up to its closing brace, which is looked at but not passed.
def directive (s : Lookahead) : Except TemplateError (Directive × Lookahead) := do
  match s.token with
  | .identifier name =>
      let next ← s.advance
      if s.atKeyword "if" then
        let (condition, s) ← ExprReader.expression next
        return (.openIf condition, s)
      else if s.atKeyword "else" then
        let (isElseIf, s) ← next.acceptKeyword "if"
        if isElseIf then
          let (condition, s) ← ExprReader.expression s
          return (.elseIf condition, s)
        else return (.otherwise, s)
      else if s.atKeyword "each" then iteration next
      else if s.atKeyword "delimit" then return (.delimit, next)
      else if s.atKeyword "end" then return (.close, next)
      else throw (.parse (.unknownDirective (asciiLower name)) s.position)
  | _ => throw (s.unexpected .directiveName)

def directivePiece (c : Cursor) (start : Nat) : Except TemplateError (Piece × Cursor) := do
  let (d, s) ← directive (← Lookahead.ofCursor c)
  if s.atSymbol .rightBrace then return (.directive d start, s.rest)
  else throw (s.unexpected .directiveEnd)

-- What stands behind an opening brace. A number sign makes it a directive.
def hole (c : Cursor) (start : Nat) : Except TemplateError (Piece × Cursor) :=
  let inner := c.skipBlank
  if inner.chars.head? = some '#' then directivePiece (inner.drop 1) start
  else placeholder c start

-- A character in front of what follows. Characters that stand together are one text.
def consChar (c : Char) : List Piece → List Piece
  | .text chars :: rest => .text (c :: chars) :: rest
  | pieces => .text [c] :: pieces

-- Braces are doubled in text. Every step consumes a character.
def readFrom : Nat → Cursor → Except TemplateError (List Piece)
  | 0, _ => .ok []
  | fuel + 1, c =>
      match c.chars with
      | [] => .ok []
      | '\x7b' :: '\x7b' :: _ => return consChar '\x7b' (← readFrom fuel (c.drop 2))
      | '\x7d' :: '\x7d' :: _ => return consChar '\x7d' (← readFrom fuel (c.drop 2))
      | '\x7d' :: _ => .error (.parse .strayBrace c.position)
      | '\x7b' :: _ => do
          let (piece, rest) ← hole (c.drop 1) c.position
          return piece :: (← readFrom fuel rest)
      | ch :: _ => return consChar ch (← readFrom fuel (c.drop 1))

end TemplateReader

-- The pieces of a template's source.
def Piece.readAll (source : String) : Except TemplateError (List Piece) :=
  let c := Cursor.ofString source
  TemplateReader.readFrom (c.chars.length + 1) c

end EventText
