import EventText.Proofs.Template.Alignment

namespace EventText

open Text (encodeChars)
open Buffer (Appends Shows)

-- A hole with nothing but `@t`, `@l` or `@m` in it is written without the detour over a value. It
-- shows what an expression shows that has the same property as its value.

-- Without a theme all that is appended is the text.
theorem Buffer.Shows.appends {write : Buffer → Buffer} {text : List Char}
    (h : Shows Theme.none write text) : Appends write (encodeChars text) := by
  obtain ⟨bytes, count, hbytes, happends⟩ := h
  rw [← hbytes.eq_encodeChars]
  exact happends

theorem Event.toList_message (event : Event) :
    event.message.toList = Message.text Culture.invariant event.properties
      (MessageTemplate.read event.messageTemplate) := by
  obtain ⟨bytes, count, hbytes, happends, -⟩ := Message.counts_write Look.plain event.properties
    Theme.coded_none (MessageTemplate.read event.messageTemplate)
  have hmessage : event.message = Text.decode bytes := congrArg Text.decode (happends Buffer.empty)
  rw [hmessage, hbytes.eq_encodeChars, Text.decode_encodeChars, String.toList_ofList]
  rfl

theorem Level.moniker_none (level : Level) : level.moniker none = level.name.toList :=
  List.map_id _

namespace Node

-- The nodes append the same bytes for all events, wherever they stand.
def Alike (look : Look) (node other : Node) : Prop :=
  ∀ scope : Scope, ∃ bytes,
    Appends (node.write look scope) bytes ∧ Appends (other.write look scope) bytes

theorem alike_of_shows {look : Look} {node other : Node} (htheme : look.theme = Theme.none)
    (h : ∀ scope : Scope, ∃ text, Shows look.theme (node.write look scope) text ∧
      Shows look.theme (other.write look scope) text) : node.Alike look other := by
  intro scope
  obtain ⟨text, hnode, hother⟩ := h scope
  rw [htheme] at hnode hother
  exact ⟨encodeChars text, hnode.appends, hother.appends⟩

variable (format : Option String) (alignment : Option Alignment)

theorem alike_timestamp :
    (timestamp format alignment).Alike Look.plain
      (expression (.builtin .timestamp) format alignment) := by
  refine alike_of_shows rfl fun scope =>
    ⟨Alignment.padded alignment ((Layout.ofPattern? format).text scope.event.timestamp), ?_, ?_⟩
  · simp only [write]
    exact shows_writeTimestamp Look.plain format alignment Theme.coded_none _
  · simp only [write, Plan.eval]
    exact shows_writeExpression Look.plain format alignment Theme.coded_none _

-- The names of levels are of seven bits, so that padding them by their bytes is padding them by
-- their characters.
theorem alike_level :
    (level none alignment).Alike Look.plain (expression (.builtin .level) none alignment) := by
  refine alike_of_shows rfl fun scope =>
    ⟨Alignment.padded alignment scope.event.level.name.toList, ?_, ?_⟩
  · simp only [write]
    rw [← Level.moniker_none]
    exact shows_writeLevel Look.plain none alignment _
  · simp only [write, Plan.eval]
    exact shows_writeExpression Look.plain none alignment Theme.coded_none _

-- A message that is written in place has the same text as one that was read back into a string,
-- and a string does not look at its format.
theorem alike_message :
    (message alignment).Alike Look.plain (expression (.builtin .message) format alignment) := by
  refine alike_of_shows rfl fun scope =>
    ⟨Alignment.padded alignment scope.event.message.toList, ?_, ?_⟩
  · simp only [write]
    rw [Event.toList_message]
    exact shows_writeMessage Look.plain alignment Theme.coded_none _
  · simp only [write, Plan.eval]
    exact shows_writeExpression Look.plain format alignment Theme.coded_none _

end Node

-- The nodes that holes of a timestamp, a level without a format and a message are lowered to write
-- what expressions over the same properties write.
theorem Surroundings.lowerPlaceholder_alike (within : Surroundings) (format : Option String)
    (alignment : Option Alignment) (position next : Nat) :
    (within.lowerPlaceholder ⟨.builtin .timestamp, format, alignment, position⟩ next
        = .ok (.timestamp format alignment, next) ∧
      (Node.timestamp format alignment).Alike Look.plain
        (.expression (.builtin .timestamp) format alignment)) ∧
    (within.lowerPlaceholder ⟨.builtin .level, none, alignment, position⟩ next
        = .ok (.level none alignment, next) ∧
      (Node.level none alignment).Alike Look.plain
        (.expression (.builtin .level) none alignment)) ∧
    within.lowerPlaceholder ⟨.builtin .message, format, alignment, position⟩ next
        = .ok (.message alignment, next) ∧
      (Node.message alignment).Alike Look.plain
        (.expression (.builtin .message) format alignment) :=
  ⟨⟨rfl, Node.alike_timestamp format alignment⟩, ⟨rfl, Node.alike_level alignment⟩,
    ⟨rfl, Node.alike_message format alignment⟩⟩

end EventText
