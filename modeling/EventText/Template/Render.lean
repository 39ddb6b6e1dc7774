import EventText.Template.Node
import EventText.Template.Reader
import EventText.Text.Lines

namespace EventText

-- Writes a timestamp into a window of at least the given size, which is committed as far as the
-- text of the timestamp goes.
def Layout.attempt? (layout : Layout) (t : Timestamp) (room : Nat) (b : Buffer) :
    Except LayoutFault (Option Buffer) := do
  let b := b.reserve room
  let bytes ← layout.fill? t b.window.length
  return bytes.map fun bytes => (b.fillWindow bytes).advance bytes.length

-- The bound of the layout is reserved first; if that were not enough, a larger window is tried
-- once.
def Layout.write? (layout : Layout) (t : Timestamp) (b : Buffer) : Except LayoutFault Buffer := do
  match ← layout.attempt? t layout.maxLength b with
  | some after => return after
  | none =>
      let reserved := max 64 (2 * layout.maxLength)
      match ← layout.attempt? t reserved b with
      | some after => return after
      | none => throw (.exhausted reserved)

-- What is reported when the program stops.
def LayoutFault.message : LayoutFault → String
  | .width => "Formatting argument out of range"
  | .exhausted reserved => Buffer.exhaustedMessage "a timestamp" reserved

-- Rendering has no result where the program stops, which is left to `write?`: here, it goes on with
-- what there is of the text. The bound counts years of up to six digits with a sign, and no
-- calendar goes further.
def Layout.write (layout : Layout) (t : Timestamp) (b : Buffer) : Buffer :=
  match layout.write? t b with
  | .ok after => after
  | .error _ => b.writeChars (layout.text t)

-- What an iteration binds in each round: items with their positions, or names or keys with their
-- values.
def Value.rounds : Value → List (Outcome × Outcome)
  | .sequence items =>
      items.mapIdx fun index item => (.ofValue item, .scalar (.uint (UInt64.ofNat index)))
  | .record members _ => members.map fun member => (.string member.1, .ofValue member.2)
  | .dictionary entries => entries.map fun entry => (.scalar entry.1, .ofValue entry.2)
  | .scalar _ => []

namespace Node

def writeStyledBy (style : Style) (content : Buffer → Buffer) (b : Buffer) : Buffer :=
  style.switchOff (content (style.switchOn b))

-- Scalars are written by their format, timestamps by a layout, everything else as JSON. Null and
-- undefined are not seen at all.
def writeOutcome (look : Look) (format : Option String) (o : Outcome) (b : Buffer) :
    Buffer × Nat :=
  let style := look.theme.style .secondaryText
  match o.value? with
  | none => (b, 0)
  | some (.scalar (.timestamp t)) =>
      (writeStyledBy style ((Layout.ofPattern? format).write t) b, style.invisible)
  | some (.scalar s) => (writeStyledBy style (s.write format look.culture) b, style.invisible)
  | some value => Json.write look.theme value b

def writeExpression (look : Look) (format : Option String) (alignment : Option Alignment)
    (o : Outcome) (b : Buffer) : Buffer :=
  let (written, invisible) := writeOutcome look format o b
  Alignment.padOptional alignment b invisible written

-- The padding of a level stands inside its style.
def writeLevel (look : Look) (format : Option String) (alignment : Option Alignment)
    (level : Level) (b : Buffer) : Buffer :=
  let bytes := (level.moniker format).flatMap String.utf8EncodeChar
  writeStyledBy (look.theme.style (.level level)) (Alignment.writeAscii alignment bytes) b

def writeTimestamp (look : Look) (format : Option String) (alignment : Option Alignment)
    (t : Timestamp) (b : Buffer) : Buffer :=
  let style := look.theme.style .secondaryText
  Alignment.padOptional alignment b style.invisible
    (writeStyledBy style ((Layout.ofPattern? format).write t) b)

def writeMessage (look : Look) (alignment : Option Alignment) (event : Event) (b : Buffer) :
    Buffer :=
  let tokens := MessageTemplate.read event.messageTemplate
  let (written, invisible) := Message.write look event.properties tokens b
  Alignment.padOptional alignment b invisible written

-- Lines of a stack trace are indented.
def isIndented (line : List Char) : Bool := [' ', ' ', ' '].isPrefixOf line

def writeLine (look : Look) (line : List Char) (b : Buffer) : Buffer :=
  let style := look.theme.style (if isIndented line then .secondaryText else .text)
  (writeStyledBy style (Buffer.writeChars · line) b).writeByte 0x0A

-- Each line ends with a line feed, the last one too.
def writeException (look : Look) (exception : Option String) (b : Buffer) : Buffer :=
  match exception with
  | none => b
  | some text => (Text.lines text.toList).foldl (fun b line => writeLine look line b) b

def bindRound (scope : Scope) (first : Nat) (second : Option Nat) (round : Outcome × Outcome) :
    Scope :=
  let scope := scope.bind first round.1
  match second with
  | some n => scope.bind n round.2
  | none => scope

-- The rounds of an iteration with something between them.
def writeRounds (body : Outcome × Outcome → Buffer → Buffer) (between : Buffer → Buffer) :
    List (Outcome × Outcome) → Buffer → Buffer
  | [], b => b
  | [round], b => body round b
  | round :: rest, b => writeRounds body between rest (between (body round b))

mutual

-- Appends what a node shows for an event.
def write (look : Look) : Node → Scope → Buffer → Buffer
  | .literal chars, _, b =>
      writeStyledBy (look.theme.style .tertiaryText) (Buffer.writeChars · chars) b
  | .expression plan format alignment, scope, b =>
      writeExpression look format alignment (plan.eval scope) b
  | .level format alignment, scope, b => writeLevel look format alignment scope.event.level b
  | .timestamp format alignment, scope, b =>
      writeTimestamp look format alignment scope.event.timestamp b
  | .message alignment, scope, b => writeMessage look alignment scope.event b
  | .exception, scope, b => writeException look scope.event.exception b
  | .sequence nodes, scope, b => writeAll look nodes scope b
  | .choice branches otherwise, scope, b =>
      writeChoice look branches (writeSection look otherwise scope) scope b
  | .iteration collection first second body delimiter alternative, scope, b =>
      match ((collection.eval scope).value?.map Value.rounds).getD [] with
      | [] => writeSection look alternative scope b
      | rounds =>
          writeRounds (fun round => write look body (bindRound scope first second round))
            (writeSection look delimiter scope) rounds b

def writeAll (look : Look) : List Node → Scope → Buffer → Buffer
  | [], _, b => b
  | node :: rest, scope, b => writeAll look rest scope (write look node scope b)

-- The first branch whose condition is true, or else what is written otherwise.
def writeChoice (look : Look) :
    List (Plan × Node) → (Buffer → Buffer) → Scope → Buffer → Buffer
  | [], otherwise, _, b => otherwise b
  | (condition, node) :: rest, otherwise, scope, b =>
      if (condition.eval scope).isTrue then write look node scope b
      else writeChoice look rest otherwise scope b

def writeSection (look : Look) : Option Node → Scope → Buffer → Buffer
  | none, _, b => b
  | some node, scope, b => write look node scope b

end

end Node

-- A template with the look of its output.
structure Template where
  root : Node
  look : Look

namespace Template

def read (source : String) (look : Look) (resolver : Resolver) :
    Except TemplateError Template := do
  let bound ← BoundTemplate.ofPieces (← Piece.readAll source)
  return { root := ← bound.lower resolver, look }

-- Appends the text of an event to an output.
def format (template : Template) (clock : Timestamp) (event : Event) (output : Bytes) : Bytes :=
  let scope := Scope.ofEvent event clock
  (template.root.write template.look scope (Buffer.ofBytes output)).flush.bytes

def render (template : Template) (clock : Timestamp) (event : Event) : String :=
  Text.decode (template.format clock event [])

end Template

end EventText
