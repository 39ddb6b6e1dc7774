import EventText.Number.Digits

namespace EventText

abbrev Bytes := List UInt8

namespace Text

-- The UTF-8 encoding of a text.
def encode (text : String) : Bytes := text.toList.flatMap String.utf8EncodeChar

def encodedLength (chars : List Char) : Nat := (chars.map Char.utf8Size).sum

-- The part of a character that is still expected: how many bytes, the range of the next one,
-- and the code collected so far.
structure Pending where
  left : Nat
  low : UInt8
  high : UInt8
  code : Nat

-- A byte at the start of a character: a finished character, the opening of a longer one,
-- or a byte that starts none.
def leadByte (b : UInt8) : List Char × Option Pending :=
  let tail (left : Nat) (low high : UInt8) (code : UInt8) : List Char × Option Pending :=
    ([], some ⟨left, low, high, code.toNat⟩)
  if b < 0x80 then ([Char.ofNat b.toNat], none)
  else if b < 0xC2 then (['\uFFFD'], none)
  else if b < 0xE0 then tail 1 0x80 0xBF (b - 0xC0)
  else if b = 0xE0 then tail 2 0xA0 0xBF 0
  else if b = 0xED then tail 2 0x80 0x9F 0xD
  else if b < 0xF0 then tail 2 0x80 0xBF (b - 0xE0)
  else if b = 0xF0 then tail 3 0x90 0xBF 0
  else if b < 0xF4 then tail 3 0x80 0xBF (b - 0xF0)
  else if b = 0xF4 then tail 3 0x80 0x8F 4
  else (['\uFFFD'], none)

-- A sequence that breaks off is replaced as a whole, and the byte that broke it is read again.
def decodeFrom : Option Pending → Bytes → List Char
  | none, [] => []
  | some _, [] => ['\uFFFD']
  | none, b :: rest =>
      let (chars, state) := leadByte b
      chars ++ decodeFrom state rest
  | some pending, b :: rest =>
      if pending.low ≤ b ∧ b ≤ pending.high then
        let code := pending.code * 64 + (b - 0x80).toNat
        if pending.left ≤ 1 then Char.ofNat code :: decodeFrom none rest
        else decodeFrom (some ⟨pending.left - 1, 0x80, 0xBF, code⟩) rest
      else
        let (chars, state) := leadByte b
        '\uFFFD' :: chars ++ decodeFrom state rest

-- The text of a byte sequence. What is not UTF-8 becomes replacement characters.
def decode (bytes : Bytes) : String := String.ofList (decodeFrom none bytes)

-- Bytes that continue a character occupy no column of their own.
def isContinuation (b : UInt8) : Bool := b &&& 0xC0 == 0x80

def columns (bytes : Bytes) : Nat := bytes.countP fun b => !isContinuation b

end Text

end EventText
