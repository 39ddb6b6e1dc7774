import EventText.Expr.Basic
import EventText.Expr.Outcome
import EventText.Text.Search
import EventText.Value.Equality

namespace EventText

-- A number as arithmetic sees it.
inductive Quantity
  | int (n : Int64)
  | float (x : Float)

namespace Quantity

-- Integers that do not fit into 64 signed bits count as floats.
def ofScalar? : Scalar → Option Quantity
  | .int n => some (.int n)
  | .uint n => some (match int64OfInt? n.toNat with | some k => .int k | none => .float n.toFloat)
  | .float x => some (.float x)
  | _ => none

def ofOutcome? (o : Outcome) : Option Quantity := o.scalar?.bind ofScalar?

def toFloat : Quantity → Float
  | int n => floatOfInt64 n
  | float x => x

def toOutcome : Quantity → Outcome
  | int n => .int n
  | float x => .float x

-- An integer power that is not too large for any use here: from the 64th on, all that do not
-- stay within one of zero are beyond 64 bits.
def power? (base : Int) (exponent : Nat) : Option Int64 :=
  if exponent = 0 then some 1
  else if base.natAbs ≤ 1 then int64OfInt? (if exponent % 2 = 0 then base * base else base)
  else if exponent < 64 then int64OfInt? (base ^ exponent)
  else none

-- The exact result on integers, if it is an integer of 64 bits. Divisors are not zero.
def integerResult? (op : BinaryOp) (a b : Int) : Option Int64 :=
  match op with
  | .add => int64OfInt? (a + b)
  | .subtract => int64OfInt? (a - b)
  | .multiply => int64OfInt? (a * b)
  | .divide => if Int.tmod a b = 0 then int64OfInt? (Int.tdiv a b) else none
  | .modulo => (int64OfInt? (Int.tdiv a b)).bind fun _ => int64OfInt? (Int.tmod a b)
  | .power => if 0 ≤ b ∧ b < 2 ^ 32 then power? a b.toNat else none
  | _ => none

def floatResult? (op : BinaryOp) (a b : Float) : Option Float :=
  match op with
  | .add => some (a + b)
  | .subtract => some (a - b)
  | .multiply => some (a * b)
  | .divide => if b == 0 then none else some (a / b)
  | .modulo => if b == 0 then none else some (floatRemainder a b)
  | .power => some (Float.pow a b)
  | _ => none

-- Arithmetic stays with integers while it can and goes over to floats then. There is no
-- division by zero.
def arithmetic? (op : BinaryOp) (a b : Quantity) : Option Quantity :=
  match a, b with
  | int m, int n =>
      if (op = .divide ∨ op = .modulo) ∧ n = 0 then none
      else
        match integerResult? op m.toInt n.toInt with
        | some k => some (.int k)
        | none => (floatResult? op (floatOfInt64 m) (floatOfInt64 n)).map .float
  | a, b => (floatResult? op a.toFloat b.toFloat).map .float

def negate : Quantity → Quantity
  | int n =>
      match int64OfInt? (-n.toInt) with
      | some k => .int k
      | none => .float (-floatOfInt64 n)
  | float x => .float (-x)

-- Integers are compared exactly, and nothing compares with a NaN.
def compare? (a b : Quantity) : Option Ordering :=
  match a, b with
  | int m, int n => some (compare m.toInt n.toInt)
  | a, b =>
      let x := a.toFloat
      let y := b.toFloat
      if x < y then some .lt else if x == y then some .eq else if y < x then some .gt else none

end Quantity

-- Operators are total: what they do not understand is undefined.
namespace Outcome

def not (o : Outcome) : Outcome := ofOptionBool (o.bool?.map (!·))

def negate (o : Outcome) : Outcome :=
  match Quantity.ofOutcome? o with
  | some q => q.negate.toOutcome
  | none => .undefined

def arithmetic (op : BinaryOp) (a b : Outcome) : Outcome :=
  match Quantity.ofOutcome? a, Quantity.ofOutcome? b with
  | some x, some y =>
      match Quantity.arithmetic? op x y with
      | some z => z.toOutcome
      | none => .undefined
  | _, _ => .undefined

-- Texts are added by writing one after the other.
def add (a b : Outcome) : Outcome :=
  match a.string?, b.string? with
  | some s, some t => string (s ++ t)
  | _, _ => arithmetic .add a b

-- Numbers are ordered among each other, and so are timestamps.
def compare? (a b : Outcome) : Option Ordering :=
  match a.scalar?, b.scalar? with
  | some (.timestamp s), some (.timestamp t) =>
      some (if s.before t then .lt else if s.sameMoment t then .eq else .gt)
  | some s, some t =>
      match Quantity.ofScalar? s, Quantity.ofScalar? t with
      | some x, some y => Quantity.compare? x y
      | _, _ => none
  | _, _ => none

def compare (test : Ordering → Bool) (a b : Outcome) : Outcome :=
  ofOptionBool ((compare? a b).map test)

def equal (ignoreCase : Bool) (a b : Outcome) : Outcome :=
  match a, b with
  | .undefined, _ | _, .undefined => .undefined
  | .null, .null => bool true
  | .value v, .value w => bool (Value.equal ignoreCase v w)
  | _, _ => bool false

def like (ignoreCase : Bool) (text pattern : Outcome) : Outcome :=
  match text.string?, pattern.string? with
  | some s, some p =>
      if ignoreCase then bool (Text.like (Text.lower s.toList) (Text.lower p.toList))
      else bool (Text.like s.toList p.toList)
  | _, _ => .undefined

def isIn (ignoreCase : Bool) (item collection : Outcome) : Outcome :=
  match collection, item with
  | .value (.sequence _), .undefined => .undefined
  | .value (.sequence items), .null => bool (items.any Value.isNull)
  | .value (.sequence items), .value v => bool (items.any (Value.equal ignoreCase v))
  | _, _ => .undefined

end Outcome

def UnaryOp.apply (op : UnaryOp) (operand : Outcome) : Outcome :=
  match op with
  | .not => operand.not
  | .negate => operand.negate
  | .isNull => .bool operand.isMissing
  | .isNotNull => .bool (!operand.isMissing)

def BinaryOp.apply (op : BinaryOp) (ignoreCase : Bool) (left right : Outcome) : Outcome :=
  match op with
  | .or => .bool (left.isTrue || right.isTrue)
  | .and => .bool (left.isTrue && right.isTrue)
  | .equal => left.equal ignoreCase right
  | .notEqual => (left.equal ignoreCase right).not
  | .less => left.compare Ordering.isLT right
  | .lessOrEqual => left.compare Ordering.isLE right
  | .greater => left.compare Ordering.isGT right
  | .greaterOrEqual => left.compare Ordering.isGE right
  | .like => left.like ignoreCase right
  | .notLike => (left.like ignoreCase right).not
  | .isIn => left.isIn ignoreCase right
  | .notIn => (left.isIn ignoreCase right).not
  | .add => left.add right
  | .subtract | .multiply | .divide | .modulo | .power => left.arithmetic op right

end EventText
