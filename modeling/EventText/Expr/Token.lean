import EventText.Number.Double
import EventText.Text.Case

namespace EventText

inductive Symbol
  | leftParen
  | rightParen
  | leftBracket
  | rightBracket
  | leftBrace
  | rightBrace
  | comma
  | colon
  | dot
  | dotDot
  | question
  | star
  | plus
  | minus
  | slash
  | percent
  | caret
  | equal
  | notEqual
  | less
  | lessOrEqual
  | greater
  | greaterOrEqual
deriving DecidableEq

def Symbol.spelling : Symbol → String
  | leftParen => "("
  | rightParen => ")"
  | leftBracket => "["
  | rightBracket => "]"
  | leftBrace => "\x7b"
  | rightBrace => "\x7d"
  | comma => ","
  | colon => ":"
  | dot => "."
  | dotDot => ".."
  | question => "?"
  | star => "*"
  | plus => "+"
  | minus => "-"
  | slash => "/"
  | percent => "%"
  | caret => "^"
  | equal => "="
  | notEqual => "<>"
  | less => "<"
  | lessOrEqual => "<="
  | greater => ">"
  | greaterOrEqual => ">="

-- The words of the expression language. A built-in name is kept without its sign, a string
-- without its quotes.
inductive Token
  | integer (n : Int64)
  | float (x : Float)
  | string (text : String)
  | identifier (name : String)
  | builtin (name : String)
  | symbol (s : Symbol)
  | eof

namespace Token

def backquoted (text : String) : String := "`" ++ text ++ "`"

def describe : Token → String
  | integer n => "number " ++ backquoted (String.ofList (intText n.toInt))
  | float x => "number " ++ backquoted (String.ofList (floatText x))
  | string _ => "string literal"
  | identifier name => backquoted name
  | builtin name => backquoted ("@" ++ name)
  | symbol s => backquoted s.spelling
  | eof => "end of template"

-- Keywords are identifiers in any case.
def isKeyword (word : String) : Token → Bool
  | identifier name => Text.sameIgnoringAsciiCase name word
  | _ => false

def isSymbol (s : Symbol) : Token → Bool
  | symbol other => s == other
  | _ => false

end Token

-- A token with the byte offsets of its first character and of the end of its last one.
structure Lexeme where
  token : Token
  start : Nat
  stop : Nat

end EventText
