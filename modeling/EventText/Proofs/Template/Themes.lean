import EventText.Proofs.Output.Showing
import EventText.Proofs.Template.Compiling
import EventText.Proofs.Template.Composing

namespace EventText

open Text (encodeChars)
open Buffer (Shows Counts)

namespace Buffer

-- A writer that shows one text in all themes whose sequences are codes.
def Uniform (write : Theme → Buffer → Buffer) : Prop :=
  ∃ text, ∀ theme : Theme, theme.Coded → Shows theme (write theme) text

theorem composable_uniform : Composable Uniform where
  nothing := ⟨[], fun _ _ => appends_id.shows⟩
  comp := by
    rintro first second ⟨text, htext⟩ ⟨others, hothers⟩
    exact ⟨text ++ others, fun theme hcoded => (htext theme hcoded).comp (hothers theme hcoded)⟩

end Buffer

open Buffer (Uniform)

namespace Node

-- The text that is shown of an outcome before it is aligned.
def outcomeText (culture : Culture) (format : Option String) (o : Outcome) : List Char :=
  match o.value? with
  | none => []
  | some (.scalar (.timestamp t)) => (Layout.ofPattern? format).text t
  | some (.scalar s) => s.formatted format culture
  | some value => value.json

variable (look : Look) (format : Option String) (alignment : Option Alignment)

theorem counts_writeOutcome (o : Outcome) :
    Counts look.theme (writeOutcome look format o) (outcomeText look.culture format o) := by
  unfold writeOutcome outcomeText
  cases o.value? with
  | none => exact Buffer.appends_id.counts
  | some value =>
      cases value with
      | scalar s =>
          have hscalar := (s.appends_write format look.culture).styled look.theme .secondaryText
          cases s with
          | timestamp t =>
              have hlayout := (Layout.ofPattern? format).appends_write t
              exact hlayout.styled look.theme .secondaryText
          | _ => exact hscalar
      | _ => exact Json.counts_write look.theme _

theorem shows_writeExpression (hcoded : look.theme.Coded) (o : Outcome) :
    Shows look.theme (writeExpression look format alignment o)
      (Alignment.padded alignment (outcomeText look.culture format o)) :=
  ((counts_writeOutcome look format o).padded hcoded alignment).shows

theorem shows_writeLevel (level : Level) :
    Shows look.theme (writeLevel look format alignment level)
      (Alignment.padded alignment (level.moniker format)) := by
  have hpadded := Alignment.appends_writeAscii alignment (level.moniker_ascii format)
  exact (hpadded.styled look.theme (.level level)).shows

theorem shows_writeTimestamp (hcoded : look.theme.Coded) (t : Timestamp) :
    Shows look.theme (writeTimestamp look format alignment t)
      (Alignment.padded alignment ((Layout.ofPattern? format).text t)) := by
  have hlayout := (Layout.ofPattern? format).appends_write t
  exact ((hlayout.styled look.theme .secondaryText).padded hcoded alignment).shows

theorem shows_writeMessage (hcoded : look.theme.Coded) (event : Event) :
    Shows look.theme (writeMessage look alignment event)
      (Alignment.padded alignment (Message.text look.culture event.properties
        (MessageTemplate.read event.messageTemplate))) :=
  ((Message.counts_write look event.properties hcoded _).padded hcoded alignment).shows

theorem shows_writeLine (line : List Char) :
    Shows look.theme (writeLine look line) (line ++ ['\n']) := by
  have hline := (Buffer.appends_writeChars line).styled look.theme
    (if isIndented line then .secondaryText else .text)
  exact hline.shows.comp (Buffer.appends_writeChars ['\n']).shows

theorem shows_writeException (exception : Option String) :
    Shows look.theme (writeException look exception)
      ((exception.elim [] fun text => Text.lines text.toList).flatMap (· ++ ['\n'])) := by
  cases exception with
  | none => exact Buffer.appends_id.shows
  | some text =>
      have hlines (lines : List (List Char)) : Shows look.theme
          (fun b => lines.foldl (fun b line => writeLine look line b) b)
          (lines.flatMap (· ++ ['\n'])) := by
        induction lines with
        | nil => exact Buffer.appends_id.shows
        | cons line rest ih => exact (shows_writeLine look line).comp ih
      exact hlines (Text.lines text.toList)

-- The node of a hole with another alignment. An exception has none.
def align (alignment : Option Alignment) : Node → Node
  | .expression plan format _ => .expression plan format alignment
  | .level format _ => .level format alignment
  | .timestamp format _ => .timestamp format alignment
  | .message _ => .message alignment
  | node => node

-- One text is shown in all alignments and themes, except for the spaces.
def Aligns (node : Node) : Prop :=
  ∀ culture scope, ∃ text, ∀ (alignment : Option Alignment) (theme : Theme), theme.Coded →
    Shows theme ((node.align alignment).write ⟨theme, culture⟩ scope)
      (Alignment.padded alignment text)

theorem aligns_expression (plan : Plan) : (Node.expression plan format alignment).Aligns := by
  intro culture scope
  refine ⟨outcomeText culture format (plan.eval scope), fun alignment theme hcoded => ?_⟩
  simp only [align, write]
  exact shows_writeExpression ⟨theme, culture⟩ format alignment hcoded _

theorem aligns_level : (Node.level format alignment).Aligns := by
  intro culture scope
  refine ⟨scope.event.level.moniker format, fun alignment theme _ => ?_⟩
  simp only [align, write]
  exact shows_writeLevel ⟨theme, culture⟩ format alignment _

theorem aligns_timestamp : (Node.timestamp format alignment).Aligns := by
  intro culture scope
  refine ⟨(Layout.ofPattern? format).text scope.event.timestamp, fun alignment theme hcoded => ?_⟩
  simp only [align, write]
  exact shows_writeTimestamp ⟨theme, culture⟩ format alignment hcoded _

theorem aligns_message : (Node.message alignment).Aligns := by
  intro culture scope
  refine ⟨Message.text culture scope.event.properties
    (MessageTemplate.read scope.event.messageTemplate), fun alignment theme hcoded => ?_⟩
  simp only [align, write]
  exact shows_writeMessage ⟨theme, culture⟩ alignment hcoded _

theorem Aligns.uniform {node : Node} (h : node.Aligns) {alignment : Option Alignment}
    (hnode : node.align alignment = node) (culture : Culture) (scope : Scope) :
    Uniform fun theme => node.write ⟨theme, culture⟩ scope := by
  obtain ⟨text, htext⟩ := h culture scope
  refine ⟨Alignment.padded alignment text, fun theme hcoded => ?_⟩
  have hshown := htext alignment theme hcoded
  rw [hnode] at hshown
  exact hshown

theorem uniform_write (culture : Culture) (node : Node) (scope : Scope) :
    Uniform fun theme => node.write ⟨theme, culture⟩ scope := by
  refine composed_write Buffer.composable_uniform (fun theme => ⟨theme, culture⟩)
    (fun leaf hleaf scope => ?_) node scope
  cases leaf with
  | literal chars =>
      simp only [write]
      exact ⟨chars, fun theme _ =>
        ((Buffer.appends_writeChars chars).styled theme .tertiaryText).shows⟩
  | expression plan format alignment =>
      exact (aligns_expression format alignment plan).uniform rfl culture scope
  | level format alignment =>
      exact (aligns_level format alignment).uniform rfl culture scope
  | timestamp format alignment =>
      exact (aligns_timestamp format alignment).uniform rfl culture scope
  | message alignment => exact (aligns_message alignment).uniform rfl culture scope
  | exception =>
      simp only [write]
      exact ⟨_, fun theme _ => shows_writeException ⟨theme, culture⟩ _⟩
  | sequence nodes => exact hleaf.elim
  | choice branches otherwise => exact hleaf.elim
  | iteration collection first second body delimiter alternative => exact hleaf.elim

end Node

-- A look plays no part before an event is written.
theorem Template.read_root {source : String} {look : Look} {resolver : Resolver}
    {template : Template} (h : Template.read source look resolver = .ok template) :
    ∃ root, template = ⟨root, look⟩ ∧
      ∀ other, Template.read source other resolver = .ok ⟨root, other⟩ := by
  obtain ⟨pieces, bound, root, hpieces, hbound, hroot, rfl⟩ := read_eq_ok.mp h
  exact ⟨root, rfl, fun other => read_eq_ok.mpr ⟨_, _, _, hpieces, hbound, hroot, rfl⟩⟩

-- Deleting the codes of a theme from what a template renders leaves what it renders without the
-- theme.
theorem Template.strip_format {source : String} {theme : Theme} {culture : Culture}
    {resolver : Resolver} {template : Template}
    (hread : Template.read source ⟨theme, culture⟩ resolver = .ok template)
    (hcoded : theme.Coded) :
    ∃ plain, Template.read source ⟨Theme.none, culture⟩ resolver = .ok plain ∧
      ∀ clock event, ControlCode.escape ∉ plain.format clock event [] →
        ControlCode.strip (template.format clock event []) = plain.format clock event [] := by
  obtain ⟨root, rfl, hother⟩ := read_root hread
  refine ⟨_, hother ⟨Theme.none, culture⟩, fun clock event hescape => ?_⟩
  obtain ⟨text, htext⟩ := root.uniform_write culture (Scope.ofEvent event clock)
  obtain ⟨bytes, count, hbytes, hthemed⟩ := htext theme hcoded
  obtain ⟨shown, _, hshown, hplain⟩ := htext Theme.none Theme.coded_none
  have hbytes' : format ⟨root, ⟨theme, culture⟩⟩ clock event [] = bytes :=
    (Buffer.bytes_flush _).trans (hthemed _)
  have hshown' : format ⟨root, ⟨Theme.none, culture⟩⟩ clock event [] = encodeChars text := by
    rw [← hshown.eq_encodeChars]
    exact (Buffer.bytes_flush _).trans (hplain _)
  rw [hshown'] at hescape ⊢
  rw [hbytes']
  exact hbytes.strip_eq hcoded hescape

-- `{@l:u3} {Name,6}`

private def greetingSource : String := "\x7b@l:u3\x7d \x7bName,6\x7d"

private def greetingPieces : List Piece :=
  [.placeholder ⟨.builtin .level, some "u3", none, 0⟩, .text [' '],
    .placeholder ⟨.property "Name", none, some ⟨.right, 6⟩, 8⟩]

private def greetingBound : BoundTemplate :=
  ⟨[.placeholder ⟨.builtin .level, some "u3", none, 0⟩, .text [' '],
    .placeholder ⟨.property "Name", none, some ⟨.right, 6⟩, 8⟩], 0⟩

private def greetingRoot : Node :=
  .sequence [.level (some "u3") none, .literal [' '],
    .expression (.property "Name") none (some ⟨.right, 6⟩)]

private def greetingEvent : Event :=
  { timestamp := midday, level := .information, messageTemplate := "", exception := none
    properties := .ofList [("Name", .ofString "Ann")] }

private theorem read_greeting (look : Look) :
    Template.read greetingSource look Resolver.empty = .ok ⟨greetingRoot, look⟩ := by
  have hpieces : Piece.readAll greetingSource = .ok greetingPieces := rfl
  have hbound : BoundTemplate.ofPieces greetingPieces = .ok greetingBound := rfl
  have hroot : greetingBound.lower Resolver.empty = .ok greetingRoot := by
    simp [greetingBound, greetingRoot]
  exact Template.read_eq_ok.mpr ⟨_, _, _, hpieces, hbound, hroot, rfl⟩

private theorem format_greeting :
    Template.format ⟨greetingRoot, Look.plain⟩ midday greetingEvent []
      = Text.encode "INF    Ann" := rfl

theorem Template.strip_format_greeting :
    ∃ template, Template.read greetingSource ⟨Theme.literate, Culture.invariant⟩ Resolver.empty
        = .ok template ∧
      ControlCode.strip (template.format midday greetingEvent [])
        = Text.encode "INF    Ann" := by
  have hname : Theme.ofBaseName? "literate" = some Theme.literate := rfl
  obtain ⟨plain, hplain, hstrip⟩ :=
    strip_format (read_greeting _) (Theme.coded_ofBaseName? hname)
  obtain rfl : plain = ⟨greetingRoot, Look.plain⟩ :=
    Except.ok.inj (hplain.symm.trans (read_greeting Look.plain))
  have hescape : ControlCode.escape ∉
      format ⟨greetingRoot, Look.plain⟩ midday greetingEvent [] := by
    rw [format_greeting]
    decide
  exact ⟨_, read_greeting _, (hstrip _ _ hescape).trans format_greeting⟩

end EventText
