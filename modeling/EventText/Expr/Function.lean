import EventText.Expr.Operators
import EventText.Json.Writer
import EventText.Number.Rounding
import EventText.Regex.Meaning
import EventText.Regex.Search
import EventText.Text.Search
import EventText.Time.Rfc3339
import EventText.Value.Text

namespace EventText

-- The functions that every template can call.
inductive BuiltinFunction
  | coalesce
  | concat
  | contains
  | elementAt
  | endsWith
  | indexOf
  | indexOfMatch
  | isDefined
  | isMatch
  | lastIndexOf
  | length
  | now
  | round
  | startsWith
  | substring
  | tagOf
  | toString
  | typeOf
  | undefined
  | utcDateTime
deriving DecidableEq

namespace BuiltinFunction

def all : List BuiltinFunction :=
  [coalesce, concat, contains, elementAt, endsWith, indexOf, indexOfMatch, isDefined, isMatch,
   lastIndexOf, length, now, round, startsWith, substring, tagOf, toString, typeOf, undefined,
   utcDateTime]

def name : BuiltinFunction → String
  | coalesce => "Coalesce"
  | concat => "Concat"
  | contains => "Contains"
  | elementAt => "ElementAt"
  | endsWith => "EndsWith"
  | indexOf => "IndexOf"
  | indexOfMatch => "IndexOfMatch"
  | isDefined => "IsDefined"
  | isMatch => "IsMatch"
  | lastIndexOf => "LastIndexOf"
  | length => "Length"
  | now => "Now"
  | round => "Round"
  | startsWith => "StartsWith"
  | substring => "Substring"
  | tagOf => "TagOf"
  | toString => "ToString"
  | typeOf => "TypeOf"
  | undefined => "Undefined"
  | utcDateTime => "UtcDateTime"

-- The least number of arguments.
def least : BuiltinFunction → Nat
  | now | undefined => 0
  | coalesce | concat | isDefined | length | tagOf | toString | typeOf | utcDateTime => 1
  | _ => 2

-- The greatest number of arguments, if there is one.
def most : BuiltinFunction → Option Nat
  | coalesce | concat => none
  | now | undefined => some 0
  | isDefined | length | tagOf | typeOf | utcDateTime => some 1
  | substring => some 3
  | _ => some 2

def accepts (f : BuiltinFunction) (arity : Nat) : Bool :=
  f.least ≤ arity && f.most.all (arity ≤ ·)

-- The functions that can ignore case.
def isCaseAware : BuiltinFunction → Bool
  | contains | endsWith | indexOf | lastIndexOf | startsWith => true
  | _ => false

-- Names are found in any case.
def ofName? (name : String) : Option BuiltinFunction :=
  all.find? fun f => Text.sameIgnoringAsciiCase f.name name

end BuiltinFunction

-- An integer, or a float that is a whole number well inside the exact range.
def Scalar.whole? : Scalar → Option Int64
  | .int n => some n
  | .uint n => int64OfInt? n.toNat
  | .float x => if x.floor == x && x.abs < 9.0e15 then some x.toInt64 else none
  | _ => none

def Scalar.index? (s : Scalar) : Option Nat :=
  s.whole?.bind fun n => if 0 ≤ n.toInt then some n.toInt.toNat else none

-- The part of a value under a key: a position, a member name or a dictionary key.
def Value.element? (key : Scalar) : Value → Option Value
  | .sequence items => key.index?.bind fun index => items[index]?
  | .record members _ =>
      match key with
      | .string name => Members.get? members name
      | _ => none
  | .dictionary entries => (entries.find? fun entry => entry.1.equal false key).map (·.2)
  | .scalar _ => none

def Outcome.element (target key : Outcome) : Outcome :=
  match key.scalar? with
  | some key => target.project (Value.element? key)
  | none => .undefined

-- What the built-in functions give. They never fail: arguments of the wrong kind give undefined.
namespace BuiltinFunction

def wholeArgument? (o : Outcome) : Option Int64 := o.scalar?.bind Scalar.whole?

def indexArgument? (o : Outcome) : Option Nat := o.scalar?.bind Scalar.index?

-- The first value, or null if there was at least a null.
def coalesced : List Outcome → Outcome
  | [] => .undefined
  | .value v :: _ => .value v
  | .null :: rest => match coalesced rest with | .value v => .value v | _ => .null
  | .undefined :: rest => coalesced rest

def concatenated : List Outcome → Option String
  | [] => some ""
  | o :: rest => do
      let text ← o.string?
      return text ++ (← concatenated rest)

def optionalString : Option String → Outcome
  | some text => .string text
  | none => .undefined

-- Searches compare in lower case if case is to be ignored.
def onTexts (ignoreCase : Bool) (text needle : Outcome)
    (result : List Char → List Char → Outcome) : Outcome :=
  match text.string?, needle.string? with
  | some text, some needle =>
      if ignoreCase then result (Text.lower text.toList) (Text.lower needle.toList)
      else result text.toList needle.toList
  | _, _ => .undefined

-- A position, or -1 if there is none.
def position : Option Nat → Outcome
  | some n => .ofNat n
  | none => .int (-1)

def matching (text pattern : Outcome) (result : Option Nat → Outcome) : Outcome :=
  onTexts false text pattern fun text pattern =>
    match Regex.ofText? pattern with
    | some r => result (r.search text)
    | none => .undefined

def lengthOf : Outcome → Outcome
  | .value (.scalar (.string text)) => .ofNat text.length
  | .value (.sequence items) => .ofNat items.length
  | _ => .undefined

-- Both the start and the end have to lie inside the text.
def substringOf (text start : Outcome) (count : Option Outcome) : Outcome :=
  match text.string?, indexArgument? start with
  | some text, some start =>
      let rest := text.toList.drop start
      if text.length < start then .undefined
      else
        match count with
        | none => .string (String.ofList rest)
        | some count =>
            match indexArgument? count with
            | some count =>
                if count ≤ rest.length then .string (String.ofList (rest.take count))
                else .undefined
            | none => .undefined
  | _, _ => .undefined

def textOf (v : Value) (format : Option String) : Outcome :=
  match v with
  | .scalar s => .string (String.ofList (s.formatted format Culture.invariant))
  | v => .string v.jsonString

def stringOf (o : Outcome) (format : Option Outcome) : Outcome :=
  match o, format with
  | .value v, none => textOf v none
  | .value v, some format =>
      match format.string? with
      | some format => textOf v (some format)
      | none => .undefined
  | _, _ => .undefined

def kindOf : Outcome → String
  | .undefined => "undefined"
  | .null => "null"
  | .value (.scalar s) => s.typeName
  | .value (.sequence _) => "array"
  | .value (.record _ _) => "object"
  | .value (.dictionary _) => "dictionary"

def tagOfRecord : Outcome → Outcome
  | .value (.record _ tag) => optionalString tag
  | _ => .undefined

-- Integers are round already. Floats keep up to fifteen decimals, a half is rounded away from
-- zero.
def roundTo (o digits : Outcome) : Outcome :=
  match (wholeArgument? digits).map Int64.toInt with
  | some digits =>
      if digits < 0 ∨ 15 < digits then .undefined
      else
        match o.scalar? with
        | some (.int n) => .int n
        | some (.uint n) => .scalar (.uint n)
        | some (.float x) =>
            let scale := Float.ofNat (10 ^ digits.toNat)
            .float ((x * scale).round / scale)
        | _ => .undefined
  | none => .undefined

def timestampOf? (o : Outcome) : Option Timestamp :=
  match o.scalar? with
  | some (.timestamp t) => some t
  | some (.string text) => Rfc3339.read? text.toList
  | _ => none

def utcOf (o : Outcome) : Outcome :=
  match timestampOf? o with
  | some t => .scalar (.timestamp t.toUtc)
  | none => .undefined

-- `clock` is the present moment. A number of arguments that is not accepted gives undefined.
def apply (f : BuiltinFunction) (clock : Timestamp) (ignoreCase : Bool)
    (arguments : List Outcome) : Outcome :=
  match f, arguments with
  | coalesce, os => coalesced os
  | concat, os => optionalString (concatenated os)
  | contains, [text, needle] => onTexts ignoreCase text needle fun t n => .bool (Text.contains t n)
  | elementAt, [target, key] => target.element key
  | endsWith, [text, needle] => onTexts ignoreCase text needle fun t n => .bool (Text.endsWith t n)
  | indexOf, [text, needle] =>
      onTexts ignoreCase text needle fun t n => position (Text.indexOf? n t)
  | indexOfMatch, [text, pattern] => matching text pattern position
  | isDefined, [o] => .bool (!o.isUndefined)
  | isMatch, [text, pattern] => matching text pattern fun found => .bool found.isSome
  | lastIndexOf, [text, needle] =>
      onTexts ignoreCase text needle fun t n => position (Text.lastIndexOf? n t)
  | length, [o] => lengthOf o
  | now, [] => .scalar (.timestamp clock)
  | round, [o, digits] => roundTo o digits
  | startsWith, [text, needle] =>
      onTexts ignoreCase text needle fun t n => .bool (Text.startsWith t n)
  | substring, [text, start] => substringOf text start none
  | substring, [text, start, count] => substringOf text start (some count)
  | tagOf, [o] => tagOfRecord o
  | toString, [o] => stringOf o none
  | toString, [o, format] => stringOf o (some format)
  | typeOf, [o] => .string (kindOf o)
  | utcDateTime, [o] => utcOf o
  | _, _ => .undefined

end BuiltinFunction

end EventText
