import EventText.Number.Digits
import EventText.Output.Buffer
import EventText.Text.Classes

namespace EventText

inductive Side
  | left
  | right
deriving DecidableEq

-- A least width and the side on which the value stands.
structure Alignment where
  side : Side
  width : Nat
deriving DecidableEq

namespace Alignment

-- A sign and decimal digits, with blanks around them. A minus sign means the left side.
-- The width has to fit into 64 bits.
def read? (text : List Char) : Option Alignment :=
  let (side, digits) := match Text.trim text with
    | '-' :: digits => (Side.left, digits)
    | '+' :: digits => (Side.right, digits)
    | digits => (Side.right, digits)
  (Digits.read? digits).bind fun width => if width < 2 ^ 64 then some ⟨side, width⟩ else none

-- Pads what was written since `start`. Bytes in it that are not seen take no room. Nothing is
-- ever cut off.
def pad (alignment : Alignment) (start invisible : Nat) (b : Buffer) : Buffer :=
  let missing := alignment.width - (Text.columns (b.writtenSince start) - invisible)
  match alignment.side with
  | .left => b.fill Buffer.space missing
  | .right => b.insertSpaces start missing

-- Pads what was written since the buffer was like `before`, if that is asked for.
def padOptional : Option Alignment → Buffer → Nat → Buffer → Buffer
  | none, _, _, b => b
  | some alignment, before, invisible, b => alignment.pad before.position invisible b

-- Writes a text whose bytes are its columns, padded.
def writeAscii (alignment : Option Alignment) (content : Bytes) (b : Buffer) : Buffer :=
  match alignment with
  | none => b.write content
  | some ⟨.left, width⟩ => (b.write content).fill Buffer.space (width - content.length)
  | some ⟨.right, width⟩ => (b.fill Buffer.space (width - content.length)).write content

end Alignment

end EventText
