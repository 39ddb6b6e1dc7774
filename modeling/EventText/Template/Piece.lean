import EventText.Expr.Basic
import EventText.Output.Alignment

namespace EventText

-- A hole that shows the value of an expression.
structure Placeholder where
  expression : Expr
  format : Option String
  alignment : Option Alignment
  position : Nat

-- The directives of a template. An iteration has one name or two.
inductive Directive
  | openIf (condition : Expr)
  | elseIf (condition : Expr)
  | otherwise
  | openEach (first : String) (second : Option String) (collection : Expr)
  | delimit
  | close

def Directive.keyword : Directive → String
  | openIf _ => "#if"
  | elseIf _ => "#else if"
  | otherwise => "#else"
  | openEach _ _ _ => "#each"
  | delimit => "#delimit"
  | close => "#end"

-- A template as a flat sequence, in the order of its source.
inductive Piece
  | text (chars : List Char)
  | placeholder (hole : Placeholder)
  | directive (d : Directive) (position : Nat)

end EventText
