import EventText.Error
import EventText.Number.Double
import EventText.Text.Classes
import EventText.Text.Utf8

namespace EventText

-- The rest of a source with the byte offset at which it starts.
structure Cursor where
  chars : List Char
  position : Nat

namespace Cursor

def ofString (source : String) : Cursor := ⟨source.toList, 0⟩

-- Moves over a number of characters.
def drop (c : Cursor) (count : Nat) : Cursor :=
  ⟨c.chars.drop count, c.position + Text.encodedLength (c.chars.take count)⟩

def skipWhile (c : Cursor) (p : Char → Bool) : Cursor := c.drop (c.chars.takeWhile p).length

def skipBlank (c : Cursor) : Cursor := c.skipWhile Text.isBlank

-- Moves to a byte offset, or to the first character after it if none starts there.
def seekFrom (offset position : Nat) : List Char → Cursor
  | [] => ⟨[], position⟩
  | c :: rest =>
      if offset ≤ position then ⟨c :: rest, position⟩
      else seekFrom offset (position + c.utf8Size) rest

def seek (offset : Nat) (c : Cursor) : Cursor := seekFrom offset c.position c.chars

end Cursor

namespace Lexer

def isHexDigit (c : Char) : Bool :=
  c.isDigit || ('a' ≤ c && c ≤ 'f') || ('A' ≤ c && c ≤ 'F')

def hexValue (c : Char) : Nat :=
  if c.isDigit then c.toNat - '0'.toNat
  else if 'a' ≤ c then c.toNat - 'a'.toNat + 10
  else c.toNat - 'A'.toNat + 10

def hexNumber (digits : List Char) : Nat := digits.foldl (fun n c => n * 16 + hexValue c) 0

-- Hexadecimal numbers have at least one digit and fit into 64 bits.
def hexToken? (digits : List Char) : Option Token :=
  let n := hexNumber digits
  if digits = [] ∨ UInt64.size ≤ n then none
  else if n < 2 ^ 63 then some (.integer (Int64.ofNat n))
  else some (.float (UInt64.ofNat n).toFloat)

-- Whole numbers that do not fit into 64 signed bits are floats.
def wholeToken (digits : List Digit) : Token :=
  let n := Digits.toNat digits
  if n < 2 ^ 63 then .integer (Int64.ofNat n) else .float (floatOfDigits digits [])

-- The token of a decimal number with the number of its characters. A point belongs to it only
-- when a digit follows.
def decimalToken (chars : List Char) : Token × Nat :=
  let (integer, rest) := Digits.scan chars
  match rest with
  | '.' :: rest =>
      match Digits.scan rest with
      | ([], _) => (wholeToken integer, integer.length)
      | (fraction, _) =>
          (.float (floatOfDigits integer fraction), integer.length + 1 + fraction.length)
  | _ => (wholeToken integer, integer.length)

-- The text of a string after its opening quote and the number of characters up to the end of
-- the closing one. A doubled quote stands for one quote.
def stringTail : List Char → Option (List Char × Nat)
  | [] => none
  | '\'' :: '\'' :: rest => (stringTail rest).map fun (text, count) => ('\'' :: text, count + 2)
  | '\'' :: _ => some ([], 1)
  | c :: rest => (stringTail rest).map fun (text, count) => (c :: text, count + 1)

-- The symbol at the front with the number of its characters.
def symbol? : List Char → Option (Symbol × Nat)
  | '.' :: '.' :: _ => some (.dotDot, 2)
  | '<' :: '>' :: _ => some (.notEqual, 2)
  | '<' :: '=' :: _ => some (.lessOrEqual, 2)
  | '>' :: '=' :: _ => some (.greaterOrEqual, 2)
  | '(' :: _ => some (.leftParen, 1)
  | ')' :: _ => some (.rightParen, 1)
  | '[' :: _ => some (.leftBracket, 1)
  | ']' :: _ => some (.rightBracket, 1)
  | '\x7b' :: _ => some (.leftBrace, 1)
  | '\x7d' :: _ => some (.rightBrace, 1)
  | ',' :: _ => some (.comma, 1)
  | ':' :: _ => some (.colon, 1)
  | '.' :: _ => some (.dot, 1)
  | '?' :: _ => some (.question, 1)
  | '*' :: _ => some (.star, 1)
  | '+' :: _ => some (.plus, 1)
  | '-' :: _ => some (.minus, 1)
  | '/' :: _ => some (.slash, 1)
  | '%' :: _ => some (.percent, 1)
  | '^' :: _ => some (.caret, 1)
  | '=' :: _ => some (.equal, 1)
  | '<' :: _ => some (.less, 1)
  | '>' :: _ => some (.greater, 1)
  | _ => none

def nameLength (chars : List Char) : Nat := (chars.takeWhile Text.isNameChar).length

-- The token at the front of a text that does not start with a blank, with the number of its
-- characters.
def scan : List Char → Except ParseFault (Token × Nat)
  | [] => .ok (.eof, 0)
  | '\'' :: rest =>
      match stringTail rest with
      | some (text, count) => .ok (.string (String.ofList text), count + 1)
      | none => .error .unterminatedString
  | '@' :: rest =>
      if nameLength rest = 0 then .error .builtinNameMissing
      else .ok (.builtin (String.ofList (rest.takeWhile Text.isNameChar)), nameLength rest + 1)
  | c :: rest =>
      if c.isDigit then
        if c = '0' ∧ (rest.head? = some 'x' ∨ rest.head? = some 'X') then
          let digits := (rest.drop 1).takeWhile isHexDigit
          match hexToken? digits with
          | some token => .ok (token, digits.length + 2)
          | none => .error .invalidHexadecimal
        else .ok (decimalToken (c :: rest))
      else if Text.isAlphabetic c || c == '_' then
        .ok (.identifier (String.ofList ((c :: rest).takeWhile Text.isNameChar)),
          nameLength (c :: rest))
      else
        match symbol? (c :: rest) with
        | some (s, count) => .ok (.symbol s, count)
        | none => .error (.unexpectedCharacter c)

-- Blanks are skipped, then a token is taken.
def next (c : Cursor) : Except TemplateError (Lexeme × Cursor) :=
  let c := c.skipBlank
  match scan c.chars with
  | .ok (token, count) => .ok (⟨token, c.position, (c.drop count).position⟩, c.drop count)
  | .error fault => .error (.parse fault c.position)

-- All tokens of a source up to its end, or up to the first error. A token that is not the end
-- consumes a character.
def tokensFrom : Nat → Cursor → List Lexeme × Option TemplateError
  | 0, _ => ([], none)
  | fuel + 1, c =>
      match next c with
      | .error e => ([], some e)
      | .ok (⟨.eof, start, stop⟩, _) => ([⟨.eof, start, stop⟩], none)
      | .ok (lexeme, c) =>
          let (lexemes, e) := tokensFrom fuel c
          (lexeme :: lexemes, e)

def tokens (source : String) (start : Nat) : List Lexeme × Option TemplateError :=
  let c := (Cursor.ofString source).seek start
  tokensFrom (c.chars.length + 1) c

end Lexer

end EventText
