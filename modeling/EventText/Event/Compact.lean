import EventText.Event.Basic
import EventText.Json.Reader
import EventText.Time.Rfc3339

namespace EventText

-- Why a line is no event. A text that is no timestamp and a line that is no JSON are kept as they
-- are.
inductive EventError
  | unknownLevel (name : String)
  | missingMember (name : String)
  | invalidMember (name message : String)
  | invalidTimestamp (text : String)
  | notJson (line : String)
deriving DecidableEq

-- What the readers of timestamps and of JSON say about a text that they refuse. The words are
-- theirs.
structure Wording where
  timestamp : String → String
  json : String → String

namespace EventError

def message (wording : Wording) : EventError → String
  | unknownLevel name => "Unknown level: " ++ name
  | missingMember name => "Missing required member '" ++ name ++ "'"
  | invalidMember name message => "Invalid value for member '" ++ name ++ "': " ++ message
  | invalidTimestamp text => "Invalid value for member '@t': " ++ wording.timestamp text
  | notJson line => "JSON error: " ++ wording.json line

end EventError

def Level.read (name : String) : Except EventError Level :=
  match Level.ofName? name with
  | some level => .ok level
  | none => .error (.unknownLevel name)

namespace Compact

def stringMember (members : List (String × Json)) (name : String) : Option String :=
  match Members.get? members name with
  | some (.string text) => some text
  | _ => none

def readTimestamp (members : List (String × Json)) : Except EventError Timestamp :=
  match Members.get? members "@t" with
  | some (.string text) =>
      match Rfc3339.read? text.toList with
      | some t => .ok t
      | none => .error (.invalidTimestamp text)
  | some _ => .error (.invalidMember "@t" "expected a string")
  | none => .error (.missingMember "@t")

def readLevel (members : List (String × Json)) : Except EventError Level :=
  match Members.get? members "@l" with
  | some (.string name) => Level.read name
  | some _ => .error (.invalidMember "@l" "expected a string")
  | none => .ok .information

-- The message template is `@mt`, or `@m` when there is none. A template that is no string
-- counts as empty.
def readTemplate (members : List (String × Json)) : String :=
  let member := match Members.get? members "@mt" with
    | some member => some member
    | none => Members.get? members "@m"
  match member with
  | some (.string text) => text
  | _ => ""

-- The property that a member stands for. A doubled sign is written for a single one, other
-- names with the sign are reserved.
def propertyName? (name : String) : Option String :=
  match name.toList with
  | '@' :: '@' :: rest => some (String.ofList ('@' :: rest))
  | '@' :: _ => none
  | _ => some name

def readProperties (members : List (String × Json)) : Properties :=
  members.foldl
    (fun properties member =>
      match propertyName? member.1 with
      | some name => properties.insert name (Value.ofJson member.2)
      | none => properties)
    Properties.empty

-- Reads an event from a line in the compact JSON layout.
def read (line : String) : Except EventError Event :=
  match Json.read? line with
  | none => .error (.notJson line)
  | some (.object members) => do
      let timestamp ← readTimestamp members
      let level ← readLevel members
      .ok { timestamp, level
            messageTemplate := readTemplate members
            properties := readProperties members
            exception := stringMember members "@x" }
  | some _ => .error (.invalidMember "<root>" "expected a JSON object")

end Compact

end EventText
