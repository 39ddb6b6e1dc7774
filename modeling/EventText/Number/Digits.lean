namespace EventText

-- Powers, sums and digits are those of the core library, also where more of it is imported.

@[default_instance 20000]
instance (priority := 10000) natPow : Pow Nat Nat := instPowNat

@[default_instance 20000]
instance (priority := 10000) intPow : Pow Int Nat := instPowNat

instance natZero : Zero Nat := ⟨0⟩

instance tenNeZero : NeZero 10 := ⟨by decide⟩

abbrev Digit := Fin 10

def Digit.toChar (d : Digit) : Char := Char.ofNat ('0'.toNat + d)

def Digit.ofChar? (c : Char) : Option Digit :=
  if h : '0'.toNat ≤ c.toNat ∧ c.toNat ≤ '9'.toNat then
    some ⟨c.toNat - '0'.toNat, by
      have hz : '0'.toNat = 48 := rfl
      have hn : '9'.toNat = 57 := rfl
      omega⟩
  else none

namespace Digits

-- Decimal digits of a number, most significant first. Zero has one digit.
def ofNat (n : Nat) : List Digit :=
  if h : n < 10 then [⟨n, h⟩]
  else ofNat (n / 10) ++ [⟨n % 10, Nat.mod_lt _ (by decide)⟩]
termination_by n

def toNat (digits : List Digit) : Nat := digits.foldl (fun value d => value * 10 + d.val) 0

def text (digits : List Digit) : List Char := digits.map Digit.toChar

-- The text is brought to the width by zeros in front.
def padLeft (width : Nat) (digits : List Digit) : List Digit :=
  List.replicate (width - digits.length) 0 ++ digits

def dropTrailingZeros (digits : List Digit) : List Digit :=
  (digits.reverse.dropWhile (· == 0)).reverse

end Digits

def natText (n : Nat) : List Char := Digits.text (Digits.ofNat n)

def intText (n : Int) : List Char :=
  if n < 0 then '-' :: natText n.natAbs else natText n.natAbs

-- A number written in at least `width` characters, the sign among them.
def intTextPadded (width : Nat) (n : Int) : List Char :=
  if n < 0 then '-' :: Digits.text (Digits.padLeft (width - 1) (Digits.ofNat n.natAbs))
  else Digits.text (Digits.padLeft width (Digits.ofNat n.natAbs))

def natTextPadded (width : Nat) (n : Nat) : List Char :=
  Digits.text (Digits.padLeft width (Digits.ofNat n))

-- The longest run of digits at the front, with what follows it.
def Digits.scan : List Char → List Digit × List Char
  | [] => ([], [])
  | c :: rest =>
      match Digit.ofChar? c with
      | none => ([], c :: rest)
      | some d =>
          let (digits, after) := Digits.scan rest
          (d :: digits, after)

-- The number that a text of decimal digits and nothing else denotes.
def Digits.read? (chars : List Char) : Option Nat :=
  match Digits.scan chars with
  | (d :: digits, []) => some (Digits.toNat (d :: digits))
  | _ => none

end EventText
