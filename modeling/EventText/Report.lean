import EventText.Error
import EventText.Text.Lines
import EventText.Text.Utf8

namespace EventText

-- The stages of building a template at which something can be wrong.
inductive FaultKind
  | parse
  | bind
  | resolution
deriving DecidableEq

namespace FaultKind

def label : FaultKind → String
  | parse => "Parse error"
  | bind => "Bind error"
  | resolution => "Resolution error"

def title : FaultKind → String
  | parse => "Invalid template syntax"
  | bind => "Invalid directive structure"
  | resolution => "Unknown function"

end FaultKind

-- A message about a place in a source, which is a byte offset.
structure Diagnostic where
  kind : FaultKind
  message : String
  position : Nat

def TemplateError.kind : TemplateError → FaultKind
  | parse _ _ => .parse
  | bind _ _ => .bind
  | resolution _ _ _ _ => .resolution

def TemplateError.diagnostic (e : TemplateError) : Diagnostic :=
  { kind := e.kind, message := e.message, position := e.position }

-- A line of a source with its end, counted from one, and a column in it, counted from zero.
structure LineSpot where
  number : Nat
  line : List Char
  column : Nat

namespace LineSpot

def isLineEnd (c : Char) : Bool :=
  ['\n', '\r', '\x0B', '\x0C', '\u0085', '\u2028', '\u2029'].contains c

-- The lines of a text with their ends. A carriage return and the line feed behind it are one end.
def lines (line : List Char) : List Char → List (List Char)
  | [] => if line.isEmpty then [] else [line]
  | '\r' :: '\n' :: rest => (line ++ ['\r', '\n']) :: lines [] rest
  | c :: rest =>
      if isLineEnd c then (line ++ [c]) :: lines [] rest else lines (line ++ [c]) rest

-- The line of a character index. Whatever is beyond the end belongs to the last line.
def locate (number index : Nat) : List (List Char) → LineSpot
  | [] => ⟨number, [], index⟩
  | [line] => ⟨number, line, index⟩
  | line :: rest =>
      if index < line.length then ⟨number, line, index⟩
      else locate (number + 1) (index - line.length) rest

-- How many characters start before a byte offset.
def charsBefore (offset : Nat) : List Char → Nat
  | [] => 0
  | c :: rest => if offset = 0 then 0 else charsBefore (offset - c.utf8Size) rest + 1

end LineSpot

namespace Diagnostic

-- The message in one line.
def text (d : Diagnostic) : String :=
  d.kind.label ++ " at offset " ++ String.ofList (natText d.position) ++ ": " ++ d.message

def trimRight (line : List Char) : List Char := (line.reverse.dropWhile Text.isBlank).reverse

def repeated (count : Nat) (c : Char) : List Char := List.replicate count c

-- A line as it is shown: every blank in it becomes spaces.
def shownLine (line : List Char) : List Char :=
  (line.mapIdx fun column c =>
    if Text.isBlank c then repeated (Text.cellWidth column c) ' ' else [c]).flatten

-- A row under a line that reaches to the given column. It holds a mark under one character of the
-- line and is filled before and behind it. Nothing is put under a character without a width.
def markedRow (line : List Char) (reach place : Nat) (mark tail after : Char) : List Char :=
  (List.range reach).flatMap fun column =>
    let width := match line.drop column with
      | c :: _ => Text.cellWidth column c
      | [] => 1
    if column < place then repeated width ' '
    else if column = place then (mark :: repeated (width - 1) tail).take width
    else repeated width after

-- A report that shows the line of the source and points at the place in it. The pointer is thinner
-- at the end of the source, where no character stands. Of an empty source nothing is shown.
def report (d : Diagnostic) (source name : String) : String :=
  let chars := source.toList
  let index := LineSpot.charsBefore d.position chars
  let spot := LineSpot.locate 1 index (LineSpot.lines [] chars)
  let line := trimRight spot.line
  let number := natText spot.number
  let margin := repeated (number.length + 2) ' '
  let (length, stem, stemTail) := if index < chars.length then (1, '┬', '─') else (0, '│', ' ')
  let row := markedRow line (spot.column + length + 2) spot.column
  let column := natText (spot.column + 1)
  let shown :=
    [margin ++ "╭─[".toList ++ name.toList ++ ':' :: number ++ ':' :: column ++ [']'],
     margin ++ ['│'],
     ' ' :: number ++ " │ ".toList ++ shownLine line,
     margin ++ "│ ".toList ++ row stem stemTail ' ',
     margin ++ "│ ".toList ++ row '╰' '─' '─' ++ ' ' :: d.message.toList,
     repeated (number.length + 2) '─' ++ ['╯']]
  let title := "Error: ".toList ++ d.kind.title.toList
  String.ofList ((title :: if chars.isEmpty then [] else shown).flatMap (· ++ ['\n']))

end Diagnostic

end EventText
