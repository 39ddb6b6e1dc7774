import EventText.Number.Digits
import EventText.Output.Theme

namespace EventText

def Scalar.role : Scalar → Role
  | .null => .null
  | .string _ => .string
  | .bool _ => .boolean
  | .int _ | .uint _ | .float _ => .number
  | .char _ | .timestamp _ => .scalar

namespace Json

def hexDigitUpper (n : Nat) : Char :=
  if n < 10 then Char.ofNat ('0'.toNat + n) else Char.ofNat ('A'.toNat + (n - 10))

-- Quotes, backslashes and control characters are escaped, all other characters stand for
-- themselves. A backspace has no short form here.
def escapeChar (c : Char) : List Char :=
  if c = '"' then ['\\', '"']
  else if c = '\\' then ['\\', '\\']
  else if c = '\n' then ['\\', 'n']
  else if c = '\r' then ['\\', 'r']
  else if c = '\t' then ['\\', 't']
  else if c = '\x0C' then ['\\', 'f']
  else if c.toNat < 0x20 then
    ['\\', 'u', '0', '0', hexDigitUpper (c.toNat / 16), hexDigitUpper (c.toNat % 16)]
  else [c]

def quote (text : List Char) : List Char := '"' :: text.flatMap escapeChar ++ ['"']

def quoteString (text : String) : List Char := quote text.toList

def punctuation (c : Char) : Styled := (.tertiaryText, [c])

def memberName (name : String) : Styled := (.name, quoteString name)

-- Floats that are not finite have no JSON form and are written as strings.
def scalarToken : Scalar → Styled
  | .string text => (.string, quoteString text)
  | .char c => (.scalar, quote [c])
  | .timestamp t => (.scalar, quote t.text)
  | .float x =>
      if x.isFinite then (.number, floatText x)
      else if x.isNaN then (.scalar, quote "NaN".toList)
      else if hasSignBit x then (.scalar, quote "-Infinity".toList)
      else (.scalar, quote "Infinity".toList)
  | s => (s.role, s.text)

-- Keys are written as strings whatever they are.
def keyToken (key : Scalar) : Styled :=
  let role : Role := match key with
    | .null => .null
    | .string _ => .string
    | _ => .scalar
  (role, quote key.text)

-- The type tag is the last member of its record.
def tagTokens (first : Bool) : Option String → List Styled
  | none => []
  | some tag =>
      (if first then [] else [punctuation ','])
        ++ [memberName typeTagMember, punctuation ':', (.string, quoteString tag)]

mutual

-- The tokens of a value in JSON, each with its role.
def tokens : Value → List Styled
  | .scalar s => [scalarToken s]
  | .sequence items => punctuation '[' :: itemTokens true items ++ [punctuation ']']
  | .record members tag =>
      punctuation '\x7b' :: memberTokens true members ++ tagTokens members.isEmpty tag
        ++ [punctuation '\x7d']
  | .dictionary entries => punctuation '\x7b' :: entryTokens true entries ++ [punctuation '\x7d']

def itemTokens (first : Bool) : List Value → List Styled
  | [] => []
  | item :: rest =>
      (if first then [] else [punctuation ',']) ++ tokens item ++ itemTokens false rest

def memberTokens (first : Bool) : List (String × Value) → List Styled
  | [] => []
  | (name, member) :: rest =>
      (if first then [] else [punctuation ','])
        ++ memberName name :: punctuation ':' :: tokens member ++ memberTokens false rest

def entryTokens (first : Bool) : List (Scalar × Value) → List Styled
  | [] => []
  | (key, value) :: rest =>
      (if first then [] else [punctuation ','])
        ++ keyToken key :: punctuation ':' :: tokens value ++ entryTokens false rest

end

-- A token in the look of its role. Its sequences are added to the count of unseen bytes.
def writeToken (theme : Theme) (token : Styled) (output : Buffer × Nat) : Buffer × Nat :=
  let style := theme.style token.1
  (style.switchOff ((style.switchOn output.1).writeChars token.2), output.2 + style.invisible)

-- All members but the first one of a container stand behind a comma.
def writeComma (theme : Theme) (first : Bool) (output : Buffer × Nat) : Buffer × Nat :=
  if first then output else writeToken theme (punctuation ',') output

def writeTag (theme : Theme) (first : Bool) (tag : Option String) (output : Buffer × Nat) :
    Buffer × Nat :=
  match tag with
  | none => output
  | some tag =>
      let named := writeToken theme (memberName typeTagMember) (writeComma theme first output)
      writeToken theme (.string, quoteString tag) (writeToken theme (punctuation ':') named)

mutual

-- Writes a value and counts the bytes that are not seen. Each container has a count of its own, to
-- which those of its parts are added.
def write (theme : Theme) : Value → Buffer → Buffer × Nat
  | .scalar s, b => writeToken theme (scalarToken s) (b, 0)
  | .sequence items, b =>
      let opened := writeToken theme (punctuation '[') (b, 0)
      writeToken theme (punctuation ']') (writeItems theme true items opened)
  | .record members tag, b =>
      let opened := writeToken theme (punctuation '\x7b') (b, 0)
      let listed := writeMembers theme true members opened
      writeToken theme (punctuation '\x7d') (writeTag theme members.isEmpty tag listed)
  | .dictionary entries, b =>
      let opened := writeToken theme (punctuation '\x7b') (b, 0)
      writeToken theme (punctuation '\x7d') (writeEntries theme true entries opened)

def writeItems (theme : Theme) (first : Bool) : List Value → Buffer × Nat → Buffer × Nat
  | [], output => output
  | item :: rest, output =>
      let (b, invisible) := writeComma theme first output
      let (b, inner) := write theme item b
      writeItems theme false rest (b, invisible + inner)

def writeMembers (theme : Theme) (first : Bool) :
    List (String × Value) → Buffer × Nat → Buffer × Nat
  | [], output => output
  | (name, member) :: rest, output =>
      let named := writeToken theme (memberName name) (writeComma theme first output)
      let (b, invisible) := writeToken theme (punctuation ':') named
      let (b, inner) := write theme member b
      writeMembers theme false rest (b, invisible + inner)

def writeEntries (theme : Theme) (first : Bool) :
    List (Scalar × Value) → Buffer × Nat → Buffer × Nat
  | [], output => output
  | (key, value) :: rest, output =>
      let named := writeToken theme (keyToken key) (writeComma theme first output)
      let (b, invisible) := writeToken theme (punctuation ':') named
      let (b, inner) := write theme value b
      writeEntries theme false rest (b, invisible + inner)

end

end Json

-- The JSON text of a value.
def Value.json (value : Value) : List Char := (Json.tokens value).flatMap (·.2)

def Value.jsonString (value : Value) : String := String.ofList value.json

end EventText
