import EventText.Event.Level
import EventText.Json.Document
import EventText.Output.Buffer

namespace EventText

-- What a piece of output is, as far as its look is concerned.
inductive Role
  | text
  | secondaryText
  | tertiaryText
  | invalid
  | null
  | name
  | string
  | number
  | boolean
  | scalar
  | level (level : Level)
deriving DecidableEq

namespace Role

def all : List Role :=
  [text, secondaryText, tertiaryText, invalid, null, name, string, number, boolean, scalar]
    ++ Level.all.map level

def label : Role → String
  | text => "Text"
  | secondaryText => "SecondaryText"
  | tertiaryText => "TertiaryText"
  | invalid => "Invalid"
  | null => "Null"
  | name => "Name"
  | string => "String"
  | number => "Number"
  | boolean => "Boolean"
  | scalar => "Scalar"
  | level severity => "Level" ++ severity.name

def ofLabel? (label : String) : Option Role := all.find? fun role => role.label == label

end Role

-- The sequence that switches a look on, if there is one.
abbrev Style := Option Bytes

namespace Style

-- The sequence that switches every look off again.
def resetCode : Bytes := [0x1B, 0x5B, 0x30, 0x6D]

def switchOn : Style → Buffer → Buffer
  | none, b => b
  | some code, b => b.write code

def switchOff : Style → Buffer → Buffer
  | none, b => b
  | some _, b => b.write resetCode

-- The bytes of both sequences. They take no room on the screen.
def invisible : Style → Nat
  | none => 0
  | some code => code.length + resetCode.length

end Style

-- A look for every role.
structure Theme where
  style : Role → Style

namespace Theme

def none : Theme := ⟨fun _ => Option.none⟩

-- Escape sequences written as their parameters, one sequence after the other.
def codes (parameters : List String) : Style :=
  some (parameters.flatMap fun p => 0x1B :: Text.encode ("[" ++ p ++ "m"))

def override (theme : Theme) (role : Role) (style : Bytes) : Theme :=
  ⟨fun other => if other = role then some style else theme.style other⟩

def literate : Theme where
  style
    | .text => codes ["38;5;0015"]
    | .secondaryText => codes ["38;5;0007"]
    | .tertiaryText => codes ["38;5;0008"]
    | .invalid => codes ["38;5;0011"]
    | .null => codes ["38;5;0027"]
    | .name => codes ["38;5;0007"]
    | .string => codes ["38;5;0045"]
    | .number => codes ["38;5;0200"]
    | .boolean => codes ["38;5;0027"]
    | .scalar => codes ["38;5;0085"]
    | .level .verbose => codes ["38;5;0007"]
    | .level .debug => codes ["38;5;0007"]
    | .level .information => codes ["38;5;0015"]
    | .level .warning => codes ["38;5;0011"]
    | .level .error => codes ["38;5;0015", "48;5;0196"]
    | .level .fatal => codes ["38;5;0015", "48;5;0196"]

def grayscale : Theme where
  style
    | .text => codes ["37;1"]
    | .secondaryText => codes ["37"]
    | .tertiaryText => codes ["30;1"]
    | .invalid => codes ["37;1", "47"]
    | .null => codes ["1", "37;1"]
    | .name => codes ["37"]
    | .string => codes ["1", "37;1"]
    | .number => codes ["1", "37;1"]
    | .boolean => codes ["1", "37;1"]
    | .scalar => codes ["1", "37;1"]
    | .level .verbose => codes ["30;1"]
    | .level .debug => codes ["30;1"]
    | .level .information => codes ["37;1"]
    | .level .warning => codes ["37;1", "47"]
    | .level .error => codes ["30", "47"]
    | .level .fatal => codes ["30", "47"]

def code : Theme where
  style
    | .text => codes ["38;5;0253"]
    | .secondaryText => codes ["38;5;0246"]
    | .tertiaryText => codes ["38;5;0242"]
    | .invalid => codes ["33;1"]
    | .null => codes ["38;5;0038"]
    | .name => codes ["38;5;0081"]
    | .string => codes ["38;5;0216"]
    | .number => codes ["38;5;151"]
    | .boolean => codes ["38;5;0038"]
    | .scalar => codes ["38;5;0079"]
    | .level .verbose => codes ["37"]
    | .level .debug => codes ["37"]
    | .level .information => codes ["37;1"]
    | .level .warning => codes ["38;5;0229"]
    | .level .error => codes ["38;5;0197", "48;5;0238"]
    | .level .fatal => codes ["38;5;0197", "48;5;0238"]

def ofBaseName? : String → Option Theme
  | "none" => some none
  | "code" => some code
  | "literate" => some literate
  | "grayscale" => some grayscale
  | _ => Option.none

-- A name is written as a string or as the only member of an object.
def readBase : Json → Option Theme
  | .string name => ofBaseName? name
  | .object [(name, .null)] => ofBaseName? name
  | _ => Option.none

def readStyles (theme : Theme) : List (String × Json) → Option Theme
  | [] => some theme
  | (label, .string style) :: rest => do
      let role ← Role.ofLabel? label
      readStyles (theme.override role (Text.encode style)) rest
  | _ => Option.none

def readOverrides (theme : Theme) : Json → Option Theme
  | .object styles => readStyles theme styles
  | _ => Option.none

-- A description of a theme: a base and overrides of some roles, both optional. It is an object,
-- whose other members are ignored, or a list of the two.
def ofJson? : Json → Option Theme
  | .object members => do
      let base ← match Members.get? members "base" with
        | some base => readBase base
        | Option.none => some none
      match Members.get? members "styles" with
      | some styles => readOverrides base styles
      | Option.none => some base
  | .array [] => some none
  | .array [base] => readBase base
  | .array [base, styles] => do
      let base ← readBase base
      readOverrides base styles
  | _ => Option.none

end Theme

-- A piece of output with its role.
abbrev Styled := Role × List Char

-- Writes pieces in their looks. The number is the count of bytes that are not seen.
def writeStyled (theme : Theme) : List Styled → Buffer → Buffer × Nat
  | [], b => (b, 0)
  | (role, chars) :: rest, b =>
      let style := theme.style role
      let (b, invisible) :=
        writeStyled theme rest (style.switchOff ((style.switchOn b).writeChars chars))
      (b, style.invisible + invisible)

end EventText
