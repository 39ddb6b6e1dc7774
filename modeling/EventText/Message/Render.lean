import EventText.Event.Basic
import EventText.Json.Writer
import EventText.Message.Template
import EventText.Output.Look
import EventText.Value.Text

namespace EventText

namespace Message

-- A value in a message: scalars by their format, everything else as JSON.
def writeValue (look : Look) (format : Option String) (value : Value) (b : Buffer) :
    Buffer × Nat :=
  match value with
  | .scalar s =>
      let style := look.theme.style s.role
      (style.switchOff (s.write format look.culture (style.switchOn b)), style.invisible)
  | value => Json.write look.theme value b

-- A hole shows the property of its name, or its own source text when there is none.
def writeHole (look : Look) (properties : Properties) (hole : MessageHole) (b : Buffer) :
    Buffer × Nat :=
  match properties.get? hole.name with
  | none => writeStyled look.theme [(.invalid, hole.raw.toList)] b
  | some value =>
      let (written, invisible) := writeValue look hole.format value b
      (Alignment.padOptional hole.alignment b invisible written, invisible)

def writeToken (look : Look) (properties : Properties) : MessageToken → Buffer → Buffer × Nat
  | .text chars, b => writeStyled look.theme [(.text, chars)] b
  | .hole hole, b => writeHole look properties hole b

-- Writes a message and counts the bytes that are not seen.
def write (look : Look) (properties : Properties) : List MessageToken → Buffer → Buffer × Nat
  | [], b => (b, 0)
  | token :: rest, b =>
      let (b, first) := writeToken look properties token b
      let (b, others) := write look properties rest b
      (b, first + others)

-- The texts of the holes that have a format, each written on its own.
def renderings (look : Look) (properties : Properties) (tokens : List MessageToken) :
    List String :=
  ((MessageTemplate.holes tokens).filter (·.format.isSome)).map fun hole =>
    Text.decode (writeHole look properties hole Buffer.empty).1.committed

end Message

-- The message of an event as plain text.
def Event.message (event : Event) : String :=
  let tokens := MessageTemplate.read event.messageTemplate
  Text.decode (Message.write Look.plain event.properties tokens Buffer.empty).1.committed

end EventText
