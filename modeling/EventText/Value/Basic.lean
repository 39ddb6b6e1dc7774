import EventText.Number.Double
import EventText.Time.Layout

namespace EventText

-- The leaves of a value.
inductive Scalar
  | null
  | bool (b : Bool)
  | int (n : Int64)
  | uint (n : UInt64)
  | float (x : Float)
  | char (c : Char)
  | string (text : String)
  | timestamp (t : Timestamp)
deriving Inhabited

-- A property value. Records keep their members in order and may carry a type tag, and names
-- may repeat. The keys of a dictionary are scalars.
inductive Value
  | scalar (s : Scalar)
  | sequence (items : List Value)
  | record (members : List (String × Value)) (tag : Option String)
  | dictionary (entries : List (Scalar × Value))
deriving Inhabited

namespace Scalar

def typeName : Scalar → String
  | .null => "null"
  | .bool _ => "Boolean"
  | .int _ => "Int64"
  | .uint _ => "UInt64"
  | .float _ => "Double"
  | .char _ => "Char"
  | .string _ => "String"
  | .timestamp _ => "DateTimeOffset"

def boolText (b : Bool) : List Char := (if b then "true" else "false").toList

-- The plain text of a scalar, also the text of a dictionary key.
def text : Scalar → List Char
  | .null => "null".toList
  | .bool b => boolText b
  | .int n => intText n.toInt
  | .uint n => natText n.toNat
  | .float x => floatText x
  | .char c => [c]
  | .string text => text.toList
  | .timestamp t => t.text

end Scalar

namespace Value

def null : Value := .scalar .null

def isNull : Value → Bool
  | .scalar .null => true
  | _ => false

def ofString (text : String) : Value := .scalar (.string text)

def scalar? : Value → Option Scalar
  | .scalar s => some s
  | _ => none

end Value

-- Association lists in order of insertion.
namespace Members

def get? (members : List (String × α)) (name : String) : Option α :=
  (members.find? (·.1 == name)).map (·.2)

-- A value takes the place of the first one of its name, a new name goes to the end.
def put (members : List (String × α)) (name : String) (value : α) : List (String × α) :=
  match members with
  | [] => [(name, value)]
  | (other, old) :: rest =>
      if other == name then (other, value) :: rest else (other, old) :: put rest name value

def names (members : List (String × α)) : List String := members.map (·.1)

theorem mem_names_put (members : List (String × α)) (name other : String) (value : α) :
    other ∈ names (put members name value) ↔ other = name ∨ other ∈ names members := by
  induction members with
  | nil => simp [put, names]
  | cons member rest ih =>
      obtain ⟨first, old⟩ := member
      unfold put
      by_cases h : first = name
      · simp [h, names]
      · have ih' : other ∈ List.map (·.1) (put rest name value) ↔
            other = name ∨ other ∈ List.map (·.1) rest := ih
        simp [h, names, ih']
        constructor
        · rintro (h | h | h) <;> simp [h]
        · rintro (h | h | h) <;> simp [h]

theorem nodup_put (members : List (String × α)) (name : String) (value : α)
    (h : (names members).Nodup) : (names (put members name value)).Nodup := by
  induction members with
  | nil => simp [put, names]
  | cons member rest ih =>
      obtain ⟨first, old⟩ := member
      have hrest : (names rest).Nodup := (List.nodup_cons.mp h).2
      have hfirst : first ∉ names rest := (List.nodup_cons.mp h).1
      unfold put
      by_cases hn : first = name
      · simpa [hn, names] using h
      · have hout : first ∉ names (put rest name value) := by
          rw [mem_names_put]
          simp [hn, hfirst]
        have hcons := List.nodup_cons.mpr ⟨hout, ih hrest⟩
        simpa [hn, names] using hcons

end Members

end EventText
