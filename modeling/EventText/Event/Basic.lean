import EventText.Event.Level
import EventText.Value.Basic

namespace EventText

-- Properties in the order of their first insertion, each name once.
structure Properties where
  entries : List (String × Value)
  distinct : (Members.names entries).Nodup

namespace Properties

def empty : Properties := ⟨[], by simp [Members.names]⟩

def insert (p : Properties) (name : String) (value : Value) : Properties :=
  ⟨Members.put p.entries name value, Members.nodup_put p.entries name value p.distinct⟩

def get? (p : Properties) (name : String) : Option Value := Members.get? p.entries name

def ofList (entries : List (String × Value)) : Properties :=
  entries.foldl (fun p entry => p.insert entry.1 entry.2) empty

end Properties

-- A structured event.
structure Event where
  timestamp : Timestamp
  level : Level
  messageTemplate : String
  properties : Properties
  exception : Option String

-- The number that identifies a kind of event: the one-at-a-time hash of its message template,
-- read in units of UTF-16.
namespace EventId

def units (c : Char) : List UInt32 :=
  let code := c.toNat
  if code < 0x10000 then [UInt32.ofNat code]
  else [UInt32.ofNat (0xD800 + (code - 0x10000) / 0x400), UInt32.ofNat (0xDC00 + code % 0x400)]

def mix (hash unit : UInt32) : UInt32 :=
  let hash := hash + unit
  let hash := hash + (hash <<< 10)
  hash ^^^ (hash >>> 6)

def finish (hash : UInt32) : UInt32 :=
  let hash := hash + (hash <<< 3)
  let hash := hash ^^^ (hash >>> 11)
  hash + (hash <<< 15)

def ofTemplate (template : String) : UInt32 :=
  finish ((template.toList.flatMap units).foldl mix 0)

end EventId

end EventText
