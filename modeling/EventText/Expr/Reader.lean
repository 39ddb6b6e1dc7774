import EventText.Expr.Basic
import EventText.Expr.Lexer

namespace EventText

-- A place in a source: the token there and what follows it. Only this one token has been
-- looked at, so whatever stands behind it cannot matter.
structure Lookahead where
  current : Lexeme
  rest : Cursor

namespace Lookahead

def ofCursor (c : Cursor) : Except TemplateError Lookahead := do
  let (current, rest) ← Lexer.next c
  return ⟨current, rest⟩

def advance (s : Lookahead) : Except TemplateError Lookahead := ofCursor s.rest

def token (s : Lookahead) : Token := s.current.token

def position (s : Lookahead) : Nat := s.current.start

def atSymbol (s : Lookahead) (symbol : Symbol) : Bool := s.token.isSymbol symbol

def atKeyword (s : Lookahead) (word : String) : Bool := s.token.isKeyword word

def unexpected (s : Lookahead) (expectation : Expectation) : TemplateError :=
  .parse (.unexpectedToken expectation s.token) s.position

def expectSymbol (symbol : Symbol) (s : Lookahead) : Except TemplateError Lookahead :=
  if s.atSymbol symbol then s.advance else .error (s.unexpected (.symbol symbol))

def expectKeyword (word : String) (s : Lookahead) : Except TemplateError Lookahead :=
  if s.atKeyword word then s.advance else .error (s.unexpected (.keyword word))

-- Whether the keyword was there; it is passed over then.
def acceptKeyword (word : String) (s : Lookahead) : Except TemplateError (Bool × Lookahead) :=
  if s.atKeyword word then do return (true, ← s.advance) else .ok (false, s)

-- A bound on the number of tokens that can still be passed over.
def budget (s : Lookahead) : Nat := s.rest.chars.length + 2

end Lookahead

-- Reads a piece of an expression and stops at the first token that does not belong to it.
abbrev ExprReader (α : Type) := Lookahead → Except TemplateError (α × Lookahead)

-- The grammar by precedence, loosest operators last. Each level is written over a reader for
-- the expressions inside it; the recursion is tied at the end. Loops count down a budget of
-- tokens.
namespace ExprReader

def negation : Expr → Expr
  | .constant (.int n) =>
      if n = Int64.minValue then .unary .negate (.constant (.int n)) else .constant (.int (-n))
  | .constant (.float x) => .constant (.float (-x))
  | operand => .unary .negate operand

def builtin (name : String) (position : Nat) : Except TemplateError BuiltinProperty :=
  match BuiltinProperty.ofName? name with
  | some p => .ok p
  | none => .error (.parse (.unknownBuiltin name) position)

-- Items with commas between them.
def separated (item : ExprReader α) : Nat → ExprReader (List α)
  | 0, s => .ok ([], s)
  | budget + 1, s => do
      let (first, s) ← item s
      if s.atSymbol .comma then
        let s ← s.advance
        let (rest, s) ← separated item budget s
        return (first :: rest, s)
      else return ([first], s)

-- A bracketed list, from behind its opening symbol to behind its closing one.
def listUntil (closing : Symbol) (item : ExprReader α) : ExprReader (List α) := fun s => do
  if s.atSymbol closing then
    let s ← s.advance
    return ([], s)
  else
    let (items, s) ← separated item s.budget s
    let s ← s.expectSymbol closing
    return (items, s)

def element (inner : ExprReader Expr) : ExprReader (Element Expr) := fun s => do
  if s.atSymbol .dotDot then
    let s ← s.advance
    let (content, s) ← inner s
    return (.spread content, s)
  else
    let (content, s) ← inner s
    return (.item content, s)

-- The name of a member and the value it has when none is written. Quoted names need a value.
def memberName (s : Lookahead) : Except TemplateError (String × Option Expr) :=
  match s.token with
  | .identifier name => .ok (name, some (.property name))
  | .builtin name => do
      let p ← builtin name s.position
      return (p.spelling, some (.builtin p))
  | .string name => .ok (name, none)
  | _ => .error (s.unexpected .memberName)

def member (inner : ExprReader Expr) : ExprReader (Member Expr) := fun s => do
  if s.atSymbol .dotDot then
    let s ← s.advance
    let (content, s) ← inner s
    return (.spread content, s)
  else
    let next ← s.advance
    let (name, shorthand) ← memberName s
    if next.atSymbol .colon then
      let s ← next.advance
      let (content, s) ← inner s
      return (.named name content, s)
    else
      match shorthand with
      | some content => return (.named name content, next)
      | none => throw (next.unexpected .colonAfterName)

def conditional (inner : ExprReader Expr) : ExprReader Expr := fun s => do
  let (condition, s) ← inner s
  let s ← s.expectKeyword "then"
  let (consequent, s) ← inner s
  let (hasAlternative, s) ← s.acceptKeyword "else"
  if hasAlternative then
    let (alternative, s) ← inner s
    return (.conditional condition consequent (some alternative), s)
  else return (.conditional condition consequent none, s)

-- A name that is no keyword: a call if a parenthesis follows, else a property.
def nameOrCall (inner : ExprReader Expr) (name : String) (position : Nat) : ExprReader Expr :=
  fun s => do
    if s.atSymbol .leftParen then
      let s ← s.advance
      let (arguments, s) ← listUntil .rightParen inner s
      let (ignoreCase, s) ← s.acceptKeyword "ci"
      return (.call name arguments ignoreCase position, s)
    else return (.property name, s)

def primary (inner : ExprReader Expr) : ExprReader Expr := fun s => do
  match s.token with
  | .integer n => return (.constant (.int n), ← s.advance)
  | .float x => return (.constant (.float x), ← s.advance)
  | .string text => return (.constant (.string text), ← s.advance)
  | .builtin name =>
      let next ← s.advance
      return (.builtin (← builtin name s.position), next)
  | .symbol .leftParen =>
      let (content, s) ← inner (← s.advance)
      return (content, ← s.expectSymbol .rightParen)
  | .symbol .leftBracket =>
      let (elements, s) ← listUntil .rightBracket (element inner) (← s.advance)
      return (.array elements, s)
  | .symbol .leftBrace =>
      let (members, s) ← listUntil .rightBrace (member inner) (← s.advance)
      return (.object members, s)
  | .identifier name =>
      let next ← s.advance
      if s.atKeyword "true" then return (.constant (.bool true), next)
      else if s.atKeyword "false" then return (.constant (.bool false), next)
      else if s.atKeyword "null" then return (.constant .null, next)
      else if s.atKeyword "if" then conditional inner next
      else nameOrCall inner name s.position next
  | _ => throw (s.unexpected .expression)

def memberAccess (target : Expr) : ExprReader Expr := fun s => do
  let next ← s.advance
  match s.token with
  | .identifier name => return (.member target name, next)
  | _ => throw (s.unexpected .memberName)

def quantifier? : Token → Option Quantifier
  | .symbol .question => some .any
  | .symbol .star => some .all
  | _ => none

def bracketAccess (inner : ExprReader Expr) (target : Expr) : ExprReader Expr := fun s => do
  match quantifier? s.token with
  | some q =>
      let s ← s.advance
      return (.wildcard target q, ← s.expectSymbol .rightBracket)
  | none =>
      let (key, s) ← inner s
      return (.index target key, ← s.expectSymbol .rightBracket)

-- Accessors after a primary.
def accessors (inner : ExprReader Expr) : Nat → Expr → ExprReader Expr
  | 0, target, s => .ok (target, s)
  | budget + 1, target, s => do
      if s.atSymbol .dot then
        let (target, s) ← memberAccess target (← s.advance)
        accessors inner budget target s
      else if s.atSymbol .leftBracket then
        let (target, s) ← bracketAccess inner target (← s.advance)
        accessors inner budget target s
      else return (target, s)

def path (inner : ExprReader Expr) : ExprReader Expr := fun s => do
  let (target, s) ← primary inner s
  accessors inner s.budget target s

-- The signs before a path, outermost first; they are applied from the inside.
def signed (inner : ExprReader Expr) : Nat → ExprReader Expr
  | 0, s => path inner s
  | budget + 1, s => do
      if s.atKeyword "not" then
        let (operand, s) ← signed inner budget (← s.advance)
        return (.unary .not operand, s)
      else if s.atSymbol .minus then
        let (operand, s) ← signed inner budget (← s.advance)
        return (negation operand, s)
      else path inner s

-- Powers group to the right.
def powers (inner : ExprReader Expr) : Nat → ExprReader Expr
  | 0, s => signed inner s.budget s
  | budget + 1, s => do
      let (base, s) ← signed inner s.budget s
      if s.atSymbol .caret then
        let (exponent, next) ← powers inner budget (← s.advance)
        return (.binary .power base exponent false s.position, next)
      else return (base, s)

-- Operands with operators between them, grouped to the left.
def leftGrouped (operator? : Token → Option BinaryOp) (operand : ExprReader Expr) :
    Nat → Expr → ExprReader Expr
  | 0, left, s => .ok (left, s)
  | budget + 1, left, s => do
      match operator? s.token with
      | none => return (left, s)
      | some op =>
          let (right, next) ← operand (← s.advance)
          leftGrouped operator? operand budget (.binary op left right false s.position) next

def level (operator? : Token → Option BinaryOp) (operand : ExprReader Expr) : ExprReader Expr :=
  fun s => do
    let (left, s) ← operand s
    leftGrouped operator? operand s.budget left s

def multiplicative? : Token → Option BinaryOp
  | .symbol .star => some .multiply
  | .symbol .slash => some .divide
  | .symbol .percent => some .modulo
  | _ => none

def additive? : Token → Option BinaryOp
  | .symbol .plus => some .add
  | .symbol .minus => some .subtract
  | _ => none

def keywordOperator? (word : String) (op : BinaryOp) (t : Token) : Option BinaryOp :=
  if t.isKeyword word then some op else none

def sum (inner : ExprReader Expr) : ExprReader Expr :=
  level additive? (level multiplicative? fun s => powers inner s.budget s)

def comparison? : Token → Option BinaryOp
  | .symbol .equal => some .equal
  | .symbol .notEqual => some .notEqual
  | .symbol .less => some .less
  | .symbol .lessOrEqual => some .lessOrEqual
  | .symbol .greater => some .greater
  | .symbol .greaterOrEqual => some .greaterOrEqual
  | t => (keywordOperator? "like" .like t).or (keywordOperator? "in" .isIn t)

def negated? (t : Token) : Option BinaryOp :=
  (keywordOperator? "like" .notLike t).or (keywordOperator? "in" .notIn t)

-- The right side of a comparison, from its last operator word on.
def compared (operand : ExprReader Expr) (op : BinaryOp) (left : Expr) (position : Nat) :
    ExprReader Expr := fun s => do
  let (right, s) ← operand (← s.advance)
  let (ignoreCase, s) ← s.acceptKeyword "ci"
  return (.binary op left right ignoreCase position, s)

-- One comparison after a left side, or nothing.
def comparisonStep (operand : ExprReader Expr) (left : Expr) :
    ExprReader (Option Expr) := fun s => do
  match comparison? s.token with
  | some op =>
      let (e, s) ← compared operand op left s.position s
      return (some e, s)
  | none =>
      if s.atKeyword "not" then
        let next ← s.advance
        match negated? next.token with
        | some op =>
            let (e, s) ← compared operand op left s.position next
            return (some e, s)
        | none => throw (next.unexpected .likeOrIn)
      else if s.atKeyword "is" then
        let (isNot, s) ← (← s.advance).acceptKeyword "not"
        let s ← s.expectKeyword "null"
        return (some (.unary (if isNot then .isNotNull else .isNull) left), s)
      else return (none, s)

def comparisons (operand : ExprReader Expr) : Nat → Expr → ExprReader Expr
  | 0, left, s => .ok (left, s)
  | budget + 1, left, s => do
      match ← comparisonStep operand left s with
      | (some e, s) => comparisons operand budget e s
      | (none, s) => return (left, s)

def comparison (inner : ExprReader Expr) : ExprReader Expr := fun s => do
  let (left, s) ← sum inner s
  comparisons (sum inner) s.budget left s

def conjunction (inner : ExprReader Expr) : ExprReader Expr :=
  level (keywordOperator? "and" .and) (comparison inner)

def disjunction (inner : ExprReader Expr) : ExprReader Expr :=
  level (keywordOperator? "or" .or) (conjunction inner)

-- Every nested expression stands behind at least one token of its own.
def nested : Nat → ExprReader Expr
  | 0, s => .error (s.unexpected .expression)
  | budget + 1, s => disjunction (nested budget) s

def expression : ExprReader Expr := fun s => nested s.budget s

end ExprReader

-- A text that is one expression and nothing else.
def Expr.read (source : String) : Except TemplateError Expr := do
  let s ← Lookahead.ofCursor (Cursor.ofString source)
  let (e, s) ← ExprReader.expression s
  match s.token with
  | .eof => return e
  | found => throw (.parse (.afterExpression found) s.position)

end EventText
