namespace EventText.Text

-- Positions of a text in another one, counted in characters.

def startsWith (text needle : List Char) : Bool := needle.isPrefixOf text

def endsWith (text needle : List Char) : Bool := needle.isSuffixOf text

-- The position of the first occurrence. The empty text occurs everywhere.
def indexOf? (needle : List Char) : List Char → Option Nat
  | [] => if needle.isEmpty then some 0 else none
  | c :: rest =>
      if needle.isPrefixOf (c :: rest) then some 0 else (indexOf? needle rest).map (· + 1)

-- The position of the last occurrence.
def lastIndexOf? (needle : List Char) : List Char → Option Nat
  | [] => if needle.isEmpty then some 0 else none
  | c :: rest =>
      match lastIndexOf? needle rest with
      | some n => some (n + 1)
      | none => if needle.isPrefixOf (c :: rest) then some 0 else none

def contains (text needle : List Char) : Bool := (indexOf? needle text).isSome

-- The patterns of `like`: a percent sign matches any run of characters, an underscore one
-- character. A row says for each length whether the text of that length matches the pattern
-- read so far.
namespace Like

def anyRun : Char := '%'

def anyOne : Char := '_'

-- Once a shorter text matches, every longer one does.
def spread (seen : Bool) : List Bool → List Bool
  | [] => []
  | reached :: rest => (seen || reached) :: spread (seen || reached) rest

-- A text one character longer matches if the last one fits.
def shift (p : Char) (text : List Char) (row : List Bool) : List Bool :=
  false :: List.zipWith (fun reached c => reached && (p == anyOne || p == c)) row text

def step (text : List Char) (row : List Bool) (p : Char) : List Bool :=
  if p = anyRun then spread false row else shift p text row

def start (text : List Char) : List Bool := true :: text.map fun _ => false

end Like

def like (text pattern : List Char) : Bool :=
  (pattern.foldl (Like.step text) (Like.start text)).getLast?.getD false

end EventText.Text
