import EventText.Value.Basic

namespace EventText

-- The result of an expression. No value at all is something else than an explicit null.
inductive Outcome
  | undefined
  | null
  | value (v : Value)

namespace Outcome

-- An explicit null has one form as an outcome.
def ofValue : Value → Outcome
  | .scalar .null => .null
  | v => .value v

def ofOption : Option Value → Outcome
  | some v => ofValue v
  | none => .undefined

def scalar (s : Scalar) : Outcome := ofValue (.scalar s)

def bool (b : Bool) : Outcome := .value (.scalar (.bool b))

theorem bool_inj {b c : Bool} : bool b = bool c ↔ b = c := by
  simp [bool]

def int (n : Int64) : Outcome := .value (.scalar (.int n))

def ofNat (n : Nat) : Outcome := int (Int64.ofNat n)

def float (x : Float) : Outcome := .value (.scalar (.float x))

def string (text : String) : Outcome := .value (.scalar (.string text))

def ofOptionBool : Option Bool → Outcome
  | some b => bool b
  | none => .undefined

-- The value of an outcome that is neither undefined nor null.
def value? : Outcome → Option Value
  | .value v => some v
  | _ => none

def scalar? : Outcome → Option Scalar
  | .value (.scalar s) => some s
  | _ => none

def string? : Outcome → Option String
  | .value (.scalar (.string text)) => some text
  | _ => none

def bool? : Outcome → Option Bool
  | .value (.scalar (.bool b)) => some b
  | _ => none

-- The outcome as a part of another value, where null is a value like any other.
def toValue? : Outcome → Option Value
  | .undefined => none
  | .null => some .null
  | .value v => some v

def isUndefined : Outcome → Bool
  | .undefined => true
  | _ => false

def isMissing : Outcome → Bool
  | .value _ => false
  | _ => true

-- Only the boolean `true` is true.
def isTrue (o : Outcome) : Bool := o.bool? == some true

-- A part of a value. What is not there is undefined.
def project (o : Outcome) (part : Value → Option Value) : Outcome :=
  match o with
  | .value v => ofOption (part v)
  | _ => .undefined

-- An outcome that holds a value holds no null.
def Normal : Outcome → Prop
  | .value v => v.isNull = false
  | _ => True

theorem normal_ofValue (v : Value) : (ofValue v).Normal := by
  cases v with
  | scalar s => cases s <;> simp [ofValue, Normal, Value.isNull]
  | sequence items => rfl
  | record members tag => rfl
  | dictionary entries => rfl

theorem normal_project (o : Outcome) (part : Value → Option Value) : (o.project part).Normal := by
  unfold project
  split
  · unfold ofOption
    split
    · exact normal_ofValue _
    · trivial
  · trivial

end Outcome

end EventText
