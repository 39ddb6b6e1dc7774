import EventText.Text.Case
import EventText.Value.Basic

namespace EventText

-- Numbers are equal by value, whatever their representation. Integers compare exactly, an
-- integer and a float compare as floats. Timestamps are equal when they are the same moment.
def Scalar.equal (ignoreCase : Bool) : Scalar → Scalar → Bool
  | .string a, .string b =>
      if ignoreCase then Text.lower a.toList == Text.lower b.toList else a == b
  | .int a, .int b => a == b
  | .uint a, .uint b => a == b
  | .int a, .uint b => a.toInt == b.toNat
  | .uint a, .int b => b.toInt == a.toNat
  | .float a, .float b => a == b
  | .float a, .int b => a == floatOfInt64 b
  | .int a, .float b => floatOfInt64 a == b
  | .float a, .uint b => a == b.toFloat
  | .uint a, .float b => a.toFloat == b
  | .null, .null => true
  | .bool a, .bool b => a == b
  | .char a, .char b => a == b
  | .timestamp a, .timestamp b => a.sameMoment b
  | _, _ => false

-- Structural equality. Records need equal tags, equally many members, and for each member on
-- the left the first one of its name on the right. Dictionaries are compared entry by entry
-- in the same one-sided way.
mutual
def Value.equal (ignoreCase : Bool) : Value → Value → Bool
  | .scalar a, .scalar b => a.equal ignoreCase b
  | .sequence a, .sequence b => Value.equalItems ignoreCase a b
  | .record a tag, .record b otherTag =>
      tag == otherTag && a.length == b.length && Value.membersWithin ignoreCase b a
  | .dictionary a, .dictionary b =>
      a.length == b.length && Value.entriesWithin ignoreCase b a
  | _, _ => false

def Value.equalItems (ignoreCase : Bool) : List Value → List Value → Bool
  | [], [] => true
  | a :: left, b :: right => Value.equal ignoreCase a b && Value.equalItems ignoreCase left right
  | _, _ => false

def Value.membersWithin (ignoreCase : Bool) (right : List (String × Value)) :
    List (String × Value) → Bool
  | [] => true
  | (name, value) :: left =>
      (match Members.get? right name with
        | some other => Value.equal ignoreCase value other
        | none => false) && Value.membersWithin ignoreCase right left

def Value.entriesWithin (ignoreCase : Bool) (right : List (Scalar × Value)) :
    List (Scalar × Value) → Bool
  | [] => true
  | (key, value) :: left =>
      right.any (fun entry => key.equal ignoreCase entry.1 && Value.equal ignoreCase value entry.2)
        && Value.entriesWithin ignoreCase right left
end

end EventText
