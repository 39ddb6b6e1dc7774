import EventText.Proofs.Failure
import EventText.Proofs.Json.Writing
import EventText.Template.Render

namespace EventText

namespace Buffer

-- A later state of a buffer: what was committed is still there, and at the same place.
def Extends (before after : Buffer) : Prop := before.committed <+: after.committed

theorem Extends.refl (b : Buffer) : b.Extends b := List.prefix_rfl

theorem Extends.trans {a b c : Buffer} (hab : a.Extends b) (hbc : b.Extends c) : a.Extends c :=
  List.IsPrefix.trans hab hbc

-- What has come since is all that has to be known of a later state.
theorem Extends.committed_eq {before after : Buffer} (h : before.Extends after) :
    after.committed = before.committed ++ after.writtenSince before.position := by
  rw [writtenSince_eq_drop, ← length_committed]
  exact (List.prefix_iff_eq_append.mp h).symm

theorem extends_write (b : Buffer) (content : Bytes) : b.Extends (b.write content) := by
  rw [Extends, committed_write]
  exact List.prefix_append _ _

-- Spaces are put behind everything that was committed when `before` was the state.
theorem Extends.insertSpaces {before after : Buffer} (h : before.Extends after) (count : Nat) :
    before.Extends (after.insertSpaces before.position count) := by
  have htake : after.committed.take before.position = before.committed := by
    rw [← length_committed]
    exact (List.prefix_iff_eq_take.mp h).symm
  rw [Extends, committed_insertSpaces, htake, List.append_assoc]
  exact List.prefix_append _ _

end Buffer

namespace Style

theorem extends_switchOn (style : Style) (b : Buffer) : b.Extends (style.switchOn b) := by
  cases style with
  | none => exact .refl b
  | some code => exact b.extends_write code

theorem extends_switchOff (style : Style) (b : Buffer) : b.Extends (style.switchOff b) := by
  cases style with
  | none => exact .refl b
  | some code => exact b.extends_write resetCode

end Style

theorem extends_writeStyled (theme : Theme) (pieces : List Styled) (b : Buffer) :
    b.Extends (writeStyled theme pieces b).1 := by
  induction pieces generalizing b with
  | nil => exact .refl b
  | cons piece rest ih =>
      obtain ⟨role, chars⟩ := piece
      have hon := (theme.style role).extends_switchOn b
      have hchars := ((theme.style role).switchOn b).extends_write
        (chars.flatMap String.utf8EncodeChar)
      have hoff := (theme.style role).extends_switchOff
        (((theme.style role).switchOn b).writeChars chars)
      exact ((hon.trans hchars).trans hoff).trans (ih _)

theorem Json.extends_write (theme : Theme) (value : Value) (b : Buffer) :
    b.Extends (write theme value b).1 := by
  rw [write_eq]
  exact extends_writeStyled theme (tokens value) b

-- Without a theme the text of the pieces is all that is written.
theorem committed_writeStyled_none (pieces : List Styled) (b : Buffer) :
    (writeStyled Theme.none pieces b).1.committed =
      b.committed ++ (pieces.flatMap (·.2)).flatMap String.utf8EncodeChar := by
  induction pieces generalizing b with
  | nil => exact (List.append_nil b.committed).symm
  | cons piece rest ih =>
      obtain ⟨role, chars⟩ := piece
      have hrest := ih (b.writeChars chars)
      rw [Buffer.writeChars, Buffer.committed_write] at hrest
      rw [List.flatMap_cons, List.flatMap_append, ← List.append_assoc]
      exact hrest

theorem Json.committed_write_none (value : Value) (b : Buffer) :
    (write Theme.none value b).1.committed =
      b.committed ++ value.json.flatMap String.utf8EncodeChar := by
  rw [write_eq]
  exact committed_writeStyled_none (tokens value) b

namespace Alignment

theorem extends_padOptional {before after : Buffer} (h : before.Extends after)
    (alignment : Option Alignment) (invisible : Nat) :
    before.Extends (padOptional alignment before invisible after) := by
  cases alignment with
  | none => exact h
  | some alignment =>
      obtain ⟨side, width⟩ := alignment
      cases side with
      | left => exact h.trans (Buffer.extends_write _ _)
      | right => exact h.insertSpaces _

theorem extends_writeAscii (alignment : Option Alignment) (content : Bytes) (b : Buffer) :
    b.Extends (writeAscii alignment content b) := by
  rcases alignment with _ | ⟨_ | _, width⟩
  · exact b.extends_write content
  · exact (b.extends_write content).trans (Buffer.extends_write _ _)
  · exact (b.extends_write _).trans (Buffer.extends_write _ content)

end Alignment

theorem Scalar.extends_write (format : Option String) (culture : Culture) (s : Scalar)
    (b : Buffer) : b.Extends (s.write format culture b) := by
  unfold write
  split
  · exact b.extends_write _
  · exact b.extends_write _
  · split <;> exact b.extends_write _
  · exact b.extends_write _

-- A text that was written went into the first window or into the second one.
theorem Layout.attempt_of_write? {layout : Layout} {t : Timestamp} {b after : Buffer}
    (h : layout.write? t b = .ok after) :
    ∃ room, layout.attempt? t room b = .ok (some after) := by
  obtain ⟨first, hfirst, h⟩ := bind_eq_ok.mp h
  cases first with
  | some written =>
      obtain rfl := pure_eq_ok.mp h
      exact ⟨_, hfirst⟩
  | none =>
      obtain ⟨second, hsecond, h⟩ := bind_eq_ok.mp h
      cases second with
      | some written =>
          obtain rfl := pure_eq_ok.mp h
          exact ⟨_, hsecond⟩
      | none => cases h

-- A window is filled before it is committed, so that nothing before it is touched.
theorem Layout.extends_write (layout : Layout) (t : Timestamp) (b : Buffer) :
    b.Extends (layout.write t b) := by
  unfold write
  cases hwritten : layout.write? t b with
  | error fault => exact b.extends_write _
  | ok after =>
      obtain ⟨room, hattempt⟩ := attempt_of_write? hwritten
      obtain ⟨filled, -, hafter⟩ := bind_eq_ok.mp hattempt
      obtain ⟨bytes, -, rfl⟩ := Option.map_eq_some_iff.mp (pure_eq_ok.mp hafter)
      rw [Buffer.Extends, Buffer.committed_advance]
      exact List.prefix_append _ _

namespace Message

theorem extends_writeValue (look : Look) (format : Option String) (value : Value) (b : Buffer) :
    b.Extends (writeValue look format value b).1 := by
  unfold writeValue
  split
  · rename_i s
    exact ((Style.extends_switchOn _ b).trans (s.extends_write _ _ _)).trans
      (Style.extends_switchOff _ _)
  · exact Json.extends_write _ _ b

theorem extends_writeHole (look : Look) (properties : Properties) (hole : MessageHole)
    (b : Buffer) : b.Extends (writeHole look properties hole b).1 := by
  unfold writeHole
  split
  · exact extends_writeStyled _ _ b
  · exact Alignment.extends_padOptional (extends_writeValue look hole.format _ b) _ _

theorem extends_writeToken (look : Look) (properties : Properties) (token : MessageToken)
    (b : Buffer) : b.Extends (writeToken look properties token b).1 := by
  cases token with
  | text chars => exact extends_writeStyled _ _ b
  | hole hole => exact extends_writeHole look properties hole b

theorem extends_write (look : Look) (properties : Properties) (tokens : List MessageToken)
    (b : Buffer) : b.Extends (write look properties tokens b).1 := by
  induction tokens generalizing b with
  | nil => exact .refl b
  | cons token rest ih => exact (extends_writeToken look properties token b).trans (ih _)

end Message

namespace Node

theorem extends_writeStyledBy {content : Buffer → Buffer}
    (h : ∀ b : Buffer, b.Extends (content b))
    (style : Style) (b : Buffer) : b.Extends (writeStyledBy style content b) :=
  ((style.extends_switchOn b).trans (h _)).trans (style.extends_switchOff _)

theorem extends_writeOutcome (look : Look) (format : Option String) (o : Outcome) (b : Buffer) :
    b.Extends (writeOutcome look format o b).1 := by
  unfold writeOutcome
  split
  · exact .refl b
  · exact extends_writeStyledBy (Layout.extends_write _ _) _ b
  · exact extends_writeStyledBy (Scalar.extends_write _ _ _) _ b
  · exact Json.extends_write _ _ b

theorem extends_writeExpression (look : Look) (format : Option String)
    (alignment : Option Alignment) (o : Outcome) (b : Buffer) :
    b.Extends (writeExpression look format alignment o b) :=
  Alignment.extends_padOptional (extends_writeOutcome look format o b) alignment _

theorem extends_writeLevel (look : Look) (format : Option String) (alignment : Option Alignment)
    (level : Level) (b : Buffer) : b.Extends (writeLevel look format alignment level b) :=
  extends_writeStyledBy (Alignment.extends_writeAscii _ _) _ b

theorem extends_writeTimestamp (look : Look) (format : Option String)
    (alignment : Option Alignment) (t : Timestamp) (b : Buffer) :
    b.Extends (writeTimestamp look format alignment t b) :=
  Alignment.extends_padOptional (extends_writeStyledBy (Layout.extends_write _ _) _ b) alignment _

theorem extends_writeMessage (look : Look) (alignment : Option Alignment) (event : Event)
    (b : Buffer) : b.Extends (writeMessage look alignment event b) :=
  Alignment.extends_padOptional (Message.extends_write look event.properties _ b) alignment _

theorem extends_writeException (look : Look) (exception : Option String) (b : Buffer) :
    b.Extends (writeException look exception b) := by
  cases exception with
  | none => exact .refl b
  | some text =>
      simp only [writeException]
      induction Text.lines text.toList generalizing b with
      | nil => exact .refl b
      | cons line rest ih =>
          have hline : b.Extends (writeLine look line b) :=
            (extends_writeStyledBy (fun b => Buffer.extends_write b _) _ b).trans
              (Buffer.extends_write _ _)
          exact hline.trans (ih _)

theorem extends_writeRounds {body : Outcome × Outcome → Buffer → Buffer}
    {between : Buffer → Buffer} (hbody : ∀ round (b : Buffer), b.Extends (body round b))
    (hbetween : ∀ b : Buffer, b.Extends (between b)) (rounds : List (Outcome × Outcome))
    (b : Buffer) : b.Extends (writeRounds body between rounds b) := by
  fun_induction writeRounds body between rounds b with
  | case1 b => exact .refl b
  | case2 round b => exact hbody round b
  | case3 round rest b hrest ih => exact ((hbody round b).trans (hbetween _)).trans ih

end Node

end EventText
