import EventText.Proofs.Template.Themes

namespace EventText

open Text (encodeChars)

namespace Buffer

-- The writer appends bytes that do not depend on the buffer.
def Settled (write : Buffer → Buffer) : Prop := ∃ bytes, Appends write bytes

-- The count of what is not seen does not depend on the buffer either.
def Measured (write : Buffer → Buffer × Nat) : Prop :=
  ∃ bytes count, Appends (fun b => (write b).1) bytes ∧ ∀ b, (write b).2 = count

variable {theme : Theme} {text : List Char} {first second : Buffer → Buffer}

theorem composable_settled : Composable fun write : Unit → Buffer → Buffer =>
    Settled (write ()) where
  nothing := ⟨[], appends_id⟩
  comp := by
    rintro first second ⟨bytes, hbytes⟩ ⟨more, hmore⟩
    exact ⟨bytes ++ more, hbytes.comp hmore⟩

theorem Shows.settled (h : Shows theme first text) : Settled first := by
  obtain ⟨bytes, -, -, hbytes⟩ := h
  exact ⟨bytes, hbytes⟩

theorem Counts.measured {write : Buffer → Buffer × Nat} (h : Counts theme write text) :
    Measured write := by
  obtain ⟨bytes, count, -, hbytes, hcount⟩ := h
  exact ⟨bytes, count, hbytes, hcount⟩

theorem Measured.settled {write : Buffer → Buffer × Nat} (h : Measured write) :
    Settled fun b => (write b).1 := by
  obtain ⟨bytes, count, hbytes, -⟩ := h
  exact ⟨bytes, hbytes⟩

theorem Measured.comp {write writeRest : Buffer → Buffer × Nat} (hfirst : Measured write)
    (hrest : Measured writeRest) :
    Measured fun b => ((writeRest (write b).1).1, (write b).2 + (writeRest (write b).1).2) := by
  obtain ⟨bytes, count, hbytes, hcount⟩ := hfirst
  obtain ⟨more, rest, hmore, hcounted⟩ := hrest
  refine ⟨bytes ++ more, count + rest, hbytes.comp hmore, fun b => ?_⟩
  simp only [hcount, hcounted]

-- Padding puts spaces on one side of what was written. The width is measured from where the value
-- starts, and is the same wherever that is. This needs no theme whose sequences are codes: a wrong
-- width is wrong in the same way in all buffers.
theorem exists_appends_padded {write : Buffer → Buffer × Nat} {bytes : Bytes} {count : Nat}
    (hbytes : Appends (fun b => (write b).1) bytes) (hcount : ∀ b, (write b).2 = count)
    (alignment : Option Alignment) : ∃ before after,
      Appends (fun b => Alignment.padOptional alignment b (write b).2 (write b).1)
        (encodeChars (List.replicate before ' ') ++ bytes
          ++ encodeChars (List.replicate after ' ')) := by
  have hwritten (b : Buffer) : (write b).1.writtenSince b.position = bytes :=
    writtenSince_appended (hbytes b)
  rcases alignment with _ | ⟨_ | _, width⟩
  · refine ⟨0, 0, fun b => ?_⟩
    simp only [Alignment.padOptional]
    rw [hbytes b, List.replicate_zero, encodeChars, List.flatMap_nil, List.nil_append,
      List.append_nil]
  · refine ⟨0, width - (Text.columns bytes - count), fun b => ?_⟩
    simp only [Alignment.padOptional, Alignment.pad, hwritten, hcount]
    rw [appends_spaces, hbytes b, List.append_assoc]
    rfl
  · refine ⟨width - (Text.columns bytes - count), 0, fun b => ?_⟩
    simp only [Alignment.padOptional, Alignment.pad, hwritten, hcount]
    rw [committed_insertSpaces_appended (hbytes b)]
    simp [encodeChars]

theorem Measured.padded {write : Buffer → Buffer × Nat} (h : Measured write)
    (alignment : Option Alignment) :
    Measured fun b => (Alignment.padOptional alignment b (write b).2 (write b).1, (write b).2) := by
  obtain ⟨bytes, count, hbytes, hcount⟩ := h
  obtain ⟨before, after, happends⟩ := exists_appends_padded hbytes hcount alignment
  exact ⟨_, count, happends, hcount⟩

end Buffer

open Buffer (Settled Measured)

namespace Message

variable (look : Look) (properties : Properties)

theorem measured_writeHole (hole : MessageHole) : Measured (writeHole look properties hole) := by
  unfold writeHole
  cases properties.get? hole.name with
  | none => exact (counts_writeStyled look.theme _).measured
  | some value => exact (counts_writeValue look hole.format value).measured.padded hole.alignment

theorem measured_write (tokens : List MessageToken) : Measured (write look properties tokens) := by
  induction tokens with
  | nil => exact ⟨[], 0, Buffer.appends_id, fun _ => rfl⟩
  | cons token rest ih =>
      cases token with
      | text chars =>
          have htext := counts_writeStyled look.theme [(.text, chars)]
          exact htext.measured.comp ih
      | hole hole => exact (measured_writeHole look properties hole).comp ih

end Message

namespace Node

-- No node depends on what stands in the buffer before it, however nodes are nested.
theorem settled_write (look : Look) (node : Node) (scope : Scope) :
    Settled (node.write look scope) := by
  refine composed_write Buffer.composable_settled (fun _ => look) (fun leaf hleaf scope => ?_)
    node scope
  cases leaf with
  | literal chars =>
      simp only [write]
      exact ((Buffer.appends_writeChars chars).styled look.theme .tertiaryText).shows.settled
  | expression plan format alignment =>
      simp only [write]
      exact ((counts_writeOutcome look format _).measured.padded alignment).settled
  | level format alignment =>
      simp only [write]
      exact (shows_writeLevel look format alignment _).settled
  | timestamp format alignment =>
      simp only [write]
      have hlayout := (Layout.ofPattern? format).appends_write scope.event.timestamp
      exact ((hlayout.styled look.theme .secondaryText).measured.padded alignment).settled
  | message alignment =>
      simp only [write]
      exact ((Message.measured_write look scope.event.properties _).padded alignment).settled
  | exception =>
      simp only [write]
      exact (shows_writeException look _).settled
  | sequence nodes => exact hleaf.elim
  | choice branches otherwise => exact hleaf.elim
  | iteration collection first second body delimiter alternative => exact hleaf.elim

end Node

namespace Template

-- One event behind any output.
theorem format_behind (template : Template) (clock : Timestamp) (event : Event) (output : Bytes) :
    template.format clock event output = output ++ template.format clock event [] := by
  obtain ⟨bytes, hbytes⟩ := template.root.settled_write template.look (Scope.ofEvent event clock)
  have hformat (output : Bytes) : template.format clock event output = output ++ bytes := by
    rw [format, Buffer.bytes_flush, hbytes, Buffer.committed_ofBytes]
  rw [hformat output, hformat [], List.nil_append]

-- Formatting only appends: an event puts behind any output what it puts into an empty one, and
-- events one after the other put their separate renderings there in order.
theorem format_appends (template : Template) (clock : Timestamp) (output : Bytes) :
    (∀ event, template.format clock event output = output ++ template.format clock event []) ∧
      ∀ events : List Event,
        events.foldl (fun written event => template.format clock event written) output
          = output ++ events.flatMap fun event => template.format clock event [] := by
  refine ⟨fun event => template.format_behind clock event output, fun events => ?_⟩
  induction events generalizing output with
  | nil => exact (List.append_nil output).symm
  | cons event rest ih =>
      rw [List.foldl_cons, ih, format_behind, List.flatMap_cons, List.append_assoc]

end Template

end EventText
