import EventText.Value.Basic

namespace EventText

-- The properties that every event has, written with a sign in front.
inductive BuiltinProperty
  | timestamp
  | message
  | messageTemplate
  | level
  | exception
  | properties
  | eventId
  | renderings
deriving DecidableEq

namespace BuiltinProperty

def name : BuiltinProperty → String
  | timestamp => "t"
  | message => "m"
  | messageTemplate => "mt"
  | level => "l"
  | exception => "x"
  | properties => "p"
  | eventId => "i"
  | renderings => "r"

def all : List BuiltinProperty :=
  [timestamp, message, messageTemplate, level, exception, properties, eventId, renderings]

def spelling (p : BuiltinProperty) : String := "@" ++ p.name

-- Built-in names are exact, unlike keywords.
def ofName? (name : String) : Option BuiltinProperty := all.find? (·.name == name)

theorem ofName?_name (p : BuiltinProperty) : ofName? p.name = some p := by
  cases p <;> decide

end BuiltinProperty

-- The wildcards `[?]` and `[*]`: some element, every element.
inductive Quantifier
  | any
  | all
deriving DecidableEq

inductive UnaryOp
  | not
  | negate
  | isNull
  | isNotNull
deriving DecidableEq

def UnaryOp.spelling : UnaryOp → String
  | not => "not"
  | negate => "-"
  | isNull => "is null"
  | isNotNull => "is not null"

inductive BinaryOp
  | or
  | and
  | equal
  | notEqual
  | less
  | lessOrEqual
  | greater
  | greaterOrEqual
  | like
  | notLike
  | isIn
  | notIn
  | add
  | subtract
  | multiply
  | divide
  | modulo
  | power
deriving DecidableEq

namespace BinaryOp

def spelling : BinaryOp → String
  | or => "or"
  | and => "and"
  | equal => "="
  | notEqual => "<>"
  | less => "<"
  | lessOrEqual => "<="
  | greater => ">"
  | greaterOrEqual => ">="
  | like => "like"
  | notLike => "not like"
  | isIn => "in"
  | notIn => "not in"
  | add => "+"
  | subtract => "-"
  | multiply => "*"
  | divide => "/"
  | modulo => "%"
  | power => "^"

-- The operators for which a trailing `ci` makes a difference.
def isCaseAware : BinaryOp → Bool
  | equal | notEqual | like | notLike | isIn | notIn => true
  | _ => false

end BinaryOp

-- An element of an array literal; a spread stands for the items of a sequence.
inductive Element (α : Type)
  | item (content : α)
  | spread (content : α)

-- A member of an object literal; a spread stands for the members of a record.
inductive Member (α : Type)
  | named (name : String) (content : α)
  | spread (content : α)

-- An expression as it is written. A slot stands for a bound name: those of enclosing `#each`
-- blocks, and the element under a wildcard. Positions are byte offsets into the source.
inductive Expr
  | constant (s : Scalar)
  | property (name : String)
  | builtin (p : BuiltinProperty)
  | slot (n : Nat)
  | member (target : Expr) (name : String)
  | index (target key : Expr)
  | wildcard (target : Expr) (q : Quantifier)
  | call (name : String) (arguments : List Expr) (ignoreCase : Bool) (position : Nat)
  | unary (op : UnaryOp) (operand : Expr)
  | binary (op : BinaryOp) (left right : Expr) (ignoreCase : Bool) (position : Nat)
  | conditional (condition consequent : Expr) (alternative : Option Expr)
  | array (elements : List (Element Expr))
  | object (members : List (Member Expr))

end EventText
