import EventText.Output.Alignment
import EventText.Text.Classes

namespace EventText

-- A hole in a message, with the source text that it was read from.
structure MessageHole where
  name : String
  format : Option String
  alignment : Option Alignment
  raw : String
deriving DecidableEq

inductive MessageToken
  | text (chars : List Char)
  | hole (content : MessageHole)
deriving DecidableEq

namespace MessageToken

def hole? : MessageToken → Option MessageHole
  | .text _ => none
  | .hole found => some found

end MessageToken

namespace MessageTemplate

-- The text before and after the first occurrence of a character.
def splitAt? (mark : Char) (chars : List Char) : Option (List Char × List Char) :=
  if mark ∈ chars then some (chars.takeWhile (· != mark), (chars.dropWhile (· != mark)).drop 1)
  else none

-- The inside of a pair of braces as a hole: a hint, a name, an alignment, a format. All but the
-- name may be missing, and a format that is there is not empty.
def readHole (inner : List Char) : Option MessageHole := do
  let hinted := match inner with
    | '@' :: rest => rest
    | '$' :: rest => rest
    | rest => rest
  let (head, format) := match splitAt? ':' hinted with
    | some (head, format) => (head, some format)
    | none => (hinted, none)
  let (name, alignment) ← match splitAt? ',' head with
    | some (name, text) => (Alignment.read? text).map fun alignment => (name, some alignment)
    | none => some (head, none)
  if name = [] ∨ !name.all Text.isNameChar ∨ format = some [] then none
  else
    some { name := String.ofList name
           format := format.map String.ofList
           alignment
           raw := String.ofList ('\x7b' :: inner ++ ['\x7d']) }

-- What follows an opening brace, up to a closing one with no other brace before it.
def closing? (chars : List Char) : Option (List Char × List Char) :=
  match chars.dropWhile (fun c => c != '\x7b' && c != '\x7d') with
  | '\x7d' :: after => some (chars.takeWhile (fun c => c != '\x7b' && c != '\x7d'), after)
  | _ => none

def flush (literal : List Char) (tokens : List MessageToken) : List MessageToken :=
  if literal.isEmpty then tokens else .text literal :: tokens

-- Braces that are doubled stand for one, a single closing brace for itself, and an opening
-- brace that starts no hole as well. `literal` is the text read since the last hole. Every
-- step consumes a character.
def readFrom : Nat → List Char → List Char → List MessageToken
  | 0, literal, _ => flush literal []
  | _ + 1, literal, [] => flush literal []
  | fuel + 1, literal, '\x7b' :: '\x7b' :: rest => readFrom fuel (literal ++ ['\x7b']) rest
  | fuel + 1, literal, '\x7b' :: rest =>
      match closing? rest with
      | some (inner, after) =>
          match readHole inner with
          | some hole => flush literal (.hole hole :: readFrom fuel [] after)
          | none => readFrom fuel (literal ++ ['\x7b']) rest
      | none => readFrom fuel (literal ++ ['\x7b']) rest
  | fuel + 1, literal, '\x7d' :: '\x7d' :: rest => readFrom fuel (literal ++ ['\x7d']) rest
  | fuel + 1, literal, c :: rest => readFrom fuel (literal ++ [c]) rest

-- Reading a message never fails.
def read (text : String) : List MessageToken := readFrom (text.toList.length + 1) [] text.toList

def holes (tokens : List MessageToken) : List MessageHole := tokens.filterMap MessageToken.hole?

end MessageTemplate

end EventText
