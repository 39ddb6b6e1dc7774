import EventText.Expr.Token

namespace EventText

-- What a place in a template has to hold.
inductive Expectation
  | symbol (s : Symbol)
  | keyword (word : String)
  | likeOrIn
  | expression
  | memberName
  | colonAfterName
  | directiveName
  | directiveEnd
  | iterationName
  | holeEnd

def Expectation.message : Expectation → String
  | symbol s => "expected " ++ Token.backquoted s.spelling
  | keyword word => "expected " ++ Token.backquoted word
  | likeOrIn => "expected `like` or `in` after `not`"
  | expression => "expected an expression"
  | memberName => "expected a member name"
  | colonAfterName => "expected `:` after a quoted member name"
  | directiveName => "expected a directive name after `#`"
  | directiveEnd => "expected `\x7d` to close the directive"
  | iterationName => "expected an iteration variable name"
  | holeEnd => "expected `\x7d`, `,` or `:` after the expression"

-- What can be wrong with the text of a template or an expression.
inductive ParseFault
  | unexpectedCharacter (c : Char)
  | builtinNameMissing
  | invalidHexadecimal
  | unterminatedString
  | unexpectedToken (expectation : Expectation) (found : Token)
  | afterExpression (found : Token)
  | unknownBuiltin (name : String)
  | strayBrace
  | unknownDirective (name : String)
  | emptyPlaceholder
  | invalidAlignment (text : String)
  | unterminatedPlaceholder

def ParseFault.message : ParseFault → String
  | unexpectedCharacter c => "unexpected character " ++ Token.backquoted (String.ofList [c])
  | builtinNameMissing => "expected a built-in property name after `@`"
  | invalidHexadecimal => "invalid hexadecimal literal"
  | unterminatedString => "unterminated string literal"
  | unexpectedToken expectation found => expectation.message ++ ", found " ++ found.describe
  | afterExpression found => "unexpected " ++ found.describe ++ " after expression"
  | unknownBuiltin name =>
      Token.backquoted ("@" ++ name) ++ " is not a recognized built-in property"
  | strayBrace => "unexpected `\x7d` in literal text; write `\x7d\x7d` for a literal brace"
  | unknownDirective name => "unknown directive " ++ Token.backquoted ("#" ++ name)
  | emptyPlaceholder => "empty placeholder"
  | invalidAlignment text => "invalid alignment " ++ Token.backquoted text
  | unterminatedPlaceholder => "unterminated placeholder; expected `\x7d`"

-- What can be wrong with the nesting of directives.
inductive BindFault
  | elseIfAfterElse
  | elseIfOutsideIf
  | repeatedElse
  | elseOutsideBlock
  | repeatedName (name : String)
  | misplacedDelimit
  | delimitOutsideEach
  | endWithoutBlock
  | unclosedIf
  | unclosedEach

def BindFault.message : BindFault → String
  | elseIfAfterElse => "`#else if` cannot follow `#else`"
  | elseIfOutsideIf => "`#else if` is only valid inside `#if`"
  | repeatedElse => "duplicate `#else`"
  | elseOutsideBlock => "`#else` is only valid inside `#if` or `#each`"
  | repeatedName name => Token.backquoted name ++ " is declared twice in the same `#each`"
  | misplacedDelimit => "`#delimit` must appear once, before any `#else`"
  | delimitOutsideEach => "`#delimit` is only valid inside `#each`"
  | endWithoutBlock => "`#end` without a matching `#if` or `#each`"
  | unclosedIf => "`#if` is missing its `#end`"
  | unclosedEach => "`#each` is missing its `#end`"

-- Why a call has no single implementation. The names are those of the implementations.
inductive ResolveFault
  | ambiguous (name : String)
  | caseModifier (name : String)
  | exactArity (name : String) (arity : Nat)
  | tooFew (name : String) (least : Nat)
  | tooMany (name : String) (most : Nat)
  | unknown

-- Everything that can go wrong while a template is built, with the byte offset of its cause.
-- A call that does not resolve is reported with its name and the number of its arguments.
inductive TemplateError
  | parse (fault : ParseFault) (position : Nat)
  | bind (fault : BindFault) (position : Nat)
  | resolution (fault : ResolveFault) (name : String) (arity position : Nat)

namespace TemplateError

def countText (n : Nat) : String := String.ofList (natText n)

def resolutionMessage (name : String) (arity : Nat) : ResolveFault → String
  | .ambiguous builtin => Token.backquoted builtin ++ " with " ++ countText arity
      ++ " argument(s) is both a built-in and a caller-supplied function"
  | .caseModifier function => Token.backquoted function ++ " does not support the `ci` modifier"
  | .exactArity builtin expected => Token.backquoted builtin ++ " expects "
      ++ countText expected ++ " argument(s), found " ++ countText arity
  | .tooFew builtin least => Token.backquoted builtin ++ " expects at least "
      ++ countText least ++ " argument(s), found " ++ countText arity
  | .tooMany builtin most => Token.backquoted builtin ++ " expects at most "
      ++ countText most ++ " argument(s), found " ++ countText arity
  | .unknown => "unknown function " ++ Token.backquoted name

def message : TemplateError → String
  | parse fault _ => fault.message
  | bind fault _ => fault.message
  | resolution fault name arity _ => resolutionMessage name arity fault

def position : TemplateError → Nat
  | parse _ position => position
  | bind _ position => position
  | resolution _ _ _ position => position

end TemplateError

end EventText
