import EventText.Value.Basic

namespace EventText

-- A JSON document. Integers keep the width they need, and the names of an object are distinct.
inductive Json
  | null
  | bool (b : Bool)
  | int (n : Int64)
  | uint (n : UInt64)
  | float (x : Float)
  | string (text : String)
  | array (items : List Json)
  | object (members : List (String × Json))
deriving Inhabited

-- The member of an object that names the type of the record.
def typeTagMember : String := "$type"

mutual

-- The value of a document. Objects become records, and a `$type` member that is a string
-- becomes the tag.
def Value.ofJson : Json → Value
  | .null => .null
  | .bool b => .scalar (.bool b)
  | .int n => .scalar (.int n)
  | .uint n => .scalar (.uint n)
  | .float x => .scalar (.float x)
  | .string text => .scalar (.string text)
  | .array items => .sequence (Value.ofJsonItems items)
  | .object members => .record (Value.ofJsonMembers members) (Value.tagOf members)

def Value.ofJsonItems : List Json → List Value
  | [] => []
  | item :: rest => Value.ofJson item :: Value.ofJsonItems rest

def Value.ofJsonMembers : List (String × Json) → List (String × Value)
  | [] => []
  | (name, .string text) :: rest =>
      if name = typeTagMember then Value.ofJsonMembers rest
      else (name, .scalar (.string text)) :: Value.ofJsonMembers rest
  | (name, member) :: rest => (name, Value.ofJson member) :: Value.ofJsonMembers rest

def Value.tagOf : List (String × Json) → Option String
  | [] => none
  | (name, .string text) :: rest =>
      if name = typeTagMember then some ((Value.tagOf rest).getD text) else Value.tagOf rest
  | _ :: rest => Value.tagOf rest

end

end EventText
