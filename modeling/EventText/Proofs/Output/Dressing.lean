import EventText.Proofs.Output.Codes
import EventText.Proofs.Output.Extends

namespace EventText

open Text (encodeChars encodeChars_append columns_append)

-- Bytes that show a text: its characters, encoded, and before, between and behind them sequences
-- of the theme. The number counts the bytes of these sequences.
inductive Dressed (theme : Theme) : List Char → Bytes → Nat → Prop
  | nil : Dressed theme [] [] 0
  | char {text : List Char} {bytes : Bytes} {count : Nat} (c : Char)
      (rest : Dressed theme text bytes count) :
      Dressed theme (c :: text) (String.utf8EncodeChar c ++ bytes) count
  | sequence {text : List Char} {bytes sent : Bytes} {count : Nat} (sends : theme.Sends sent)
      (rest : Dressed theme text bytes count) :
      Dressed theme text (sent ++ bytes) (sent.length + count)

namespace Dressed

variable {theme : Theme} {text others : List Char} {bytes more sent : Bytes} {count rest : Nat}

theorem plain (text : List Char) : Dressed theme text (encodeChars text) 0 := by
  induction text with
  | nil => exact .nil
  | cons c text ih => exact .char c ih

theorem alone (sends : theme.Sends sent) : Dressed theme [] sent sent.length := by
  have hsent := Dressed.sequence sends .nil
  rw [List.append_nil] at hsent
  exact hsent

theorem append (hfirst : Dressed theme text bytes count) (hrest : Dressed theme others more rest) :
    Dressed theme (text ++ others) (bytes ++ more) (count + rest) := by
  induction hfirst with
  | nil =>
      rw [Nat.zero_add]
      exact hrest
  | char c _ ih =>
      rw [List.append_assoc]
      exact .char c ih
  | sequence sends _ ih =>
      rw [List.append_assoc, Nat.add_assoc]
      exact .sequence sends ih

-- Without a theme there is nothing but the text.
theorem eq_encodeChars (h : Dressed Theme.none text bytes count) : bytes = encodeChars text := by
  induction h with
  | nil => rfl
  | char c _ ih =>
      rw [ih]
      rfl
  | sequence sends _ _ => exact absurd sends (Theme.not_sends_none _)

theorem columns_eq (h : Dressed theme text bytes count) (hcoded : theme.Coded) :
    Text.columns bytes = text.length + count := by
  induction h with
  | nil => rfl
  | char c _ ih =>
      rw [columns_append, Text.columns_utf8EncodeChar, ih, List.length_cons]
      omega
  | sequence sends _ ih =>
      rw [columns_append, ControlCode.columns_codes (hcoded.are sends), ih]
      omega

theorem strip_eq (h : Dressed theme text bytes count) (hcoded : theme.Coded)
    (hplain : ControlCode.escape ∉ encodeChars text) :
    ControlCode.strip bytes = encodeChars text := by
  induction h with
  | nil => rw [ControlCode.strip, encodeChars, List.flatMap_nil]
  | @char text bytes count c rest ih =>
      have hboth : ControlCode.escape ∉ String.utf8EncodeChar c ++ encodeChars text := hplain
      rw [List.mem_append, not_or] at hboth
      rw [ControlCode.strip_plain hboth.1, ih hboth.2]
      rfl
  | sequence sends _ ih => rw [ControlCode.strip_codes (hcoded.are sends), ih hplain]

end Dressed

namespace Buffer

-- The writer puts these bytes behind what is there, whatever that is.
def Appends (write : Buffer → Buffer) (bytes : Bytes) : Prop :=
  ∀ b : Buffer, (write b).committed = b.committed ++ bytes

-- The writer appends bytes that show this text.
def Shows (theme : Theme) (write : Buffer → Buffer) (text : List Char) : Prop :=
  ∃ bytes count, Dressed theme text bytes count ∧ Appends write bytes

-- The writer counts the bytes of the sequences among those that it appends.
def Counts (theme : Theme) (write : Buffer → Buffer × Nat) (text : List Char) : Prop :=
  ∃ bytes count, Dressed theme text bytes count ∧ Appends (fun b => (write b).1) bytes ∧
    ∀ b, (write b).2 = count

variable {theme : Theme} {first second : Buffer → Buffer} {text others : List Char}
  {bytes more : Bytes}

theorem appends_write (content : Bytes) : Appends (Buffer.write · content) content :=
  fun b => b.committed_write content

theorem appends_writeChars (text : List Char) : Appends (writeChars · text) (encodeChars text) :=
  appends_write _

theorem encodeChars_spaces (count : Nat) :
    encodeChars (List.replicate count ' ') = List.replicate count space := by
  induction count with
  | zero => rfl
  | succ count ih =>
      rw [List.replicate_succ, List.replicate_succ, ← ih]
      rfl

theorem appends_spaces (count : Nat) :
    Appends (fill · space count) (encodeChars (List.replicate count ' ')) := by
  rw [encodeChars_spaces]
  exact appends_write _

theorem Appends.comp (hfirst : Appends first bytes) (hsecond : Appends second more) :
    Appends (fun b => second (first b)) (bytes ++ more) := by
  intro b
  rw [hsecond, hfirst, List.append_assoc]

theorem appends_id : Appends id [] := fun b => (List.append_nil b.committed).symm

theorem Appends.shows (h : Appends first (encodeChars text)) : Shows theme first text :=
  ⟨_, _, .plain text, h⟩

theorem Appends.counts (h : Appends first (encodeChars text)) :
    Counts theme (fun b => (first b, 0)) text :=
  ⟨_, _, .plain text, h, fun _ => rfl⟩

theorem Shows.comp (hfirst : Shows theme first text) (hsecond : Shows theme second others) :
    Shows theme (fun b => second (first b)) (text ++ others) := by
  obtain ⟨bytes, count, hbytes, happends⟩ := hfirst
  obtain ⟨more, rest, hmore, hothers⟩ := hsecond
  exact ⟨_, _, hbytes.append hmore, happends.comp hothers⟩

theorem Counts.shows {write : Buffer → Buffer × Nat} (h : Counts theme write text) :
    Shows theme (fun b => (write b).1) text := by
  obtain ⟨bytes, count, hbytes, happends, -⟩ := h
  exact ⟨bytes, count, hbytes, happends⟩

theorem Counts.comp {write writeRest : Buffer → Buffer × Nat} (hfirst : Counts theme write text)
    (hrest : Counts theme writeRest others) :
    Counts theme (fun b => ((writeRest (write b).1).1, (write b).2 + (writeRest (write b).1).2))
      (text ++ others) := by
  obtain ⟨bytes, count, hbytes, happends, hcount⟩ := hfirst
  obtain ⟨more, rest, hmore, hothers, hcounted⟩ := hrest
  refine ⟨_, _, hbytes.append hmore, happends.comp hothers, fun b => ?_⟩
  simp only [hcount, hcounted]

-- Bytes that were appended can be taken out again.
theorem writtenSince_appended {before after : Buffer}
    (h : after.committed = before.committed ++ bytes) :
    after.writtenSince before.position = bytes := by
  rw [writtenSince_eq_drop, ← length_committed, h]
  exact List.drop_left

theorem committed_insertSpaces_appended {before after : Buffer}
    (h : after.committed = before.committed ++ bytes) (count : Nat) :
    (after.insertSpaces before.position count).committed
      = before.committed ++ (encodeChars (List.replicate count ' ') ++ bytes) := by
  rw [committed_insertSpaces, writtenSince_appended h, h, ← length_committed, List.take_left,
    encodeChars_spaces, List.append_assoc]

end Buffer

-- A text in the look of a role: the sequence of the look before it and the reset behind it.
theorem Buffer.Appends.styled {write : Buffer → Buffer} {text : List Char}
    (h : Buffer.Appends write (encodeChars text)) (theme : Theme) (role : Role) :
    Buffer.Counts theme
      (fun b => ((theme.style role).switchOff (write ((theme.style role).switchOn b)),
        (theme.style role).invisible)) text := by
  cases hstyle : theme.style role with
  | none => exact h.counts
  | some code =>
      have hon : Dressed theme [] code code.length :=
        .alone ⟨role, code, hstyle, .inl rfl⟩
      have hoff : Dressed theme [] Style.resetCode Style.resetCode.length :=
        .alone ⟨role, code, hstyle, .inr rfl⟩
      have hdressed := (hon.append (.plain text)).append hoff
      rw [List.nil_append, List.append_nil] at hdressed
      refine ⟨_, _, hdressed, ?_, fun b => rfl⟩
      exact ((appends_write code).comp h).comp (appends_write Style.resetCode)

theorem counts_writeStyled (theme : Theme) (pieces : List Styled) :
    Buffer.Counts theme (writeStyled theme pieces) (pieces.flatMap (·.2)) := by
  induction pieces with
  | nil => exact Buffer.appends_id.counts
  | cons piece rest ih =>
      obtain ⟨role, chars⟩ := piece
      exact ((Buffer.appends_writeChars chars).styled theme role).comp ih

theorem Json.counts_write (theme : Theme) (value : Value) :
    Buffer.Counts theme (write theme value) value.json := by
  have heq : write theme value = writeStyled theme (tokens value) := funext (write_eq theme value)
  rw [heq]
  exact counts_writeStyled theme (tokens value)

namespace Alignment

-- The spaces that a text lacks stand behind it on the left side and before it on the right side.
def padded : Option Alignment → List Char → List Char
  | none, text => text
  | some ⟨.left, width⟩, text => text ++ List.replicate (width - text.length) ' '
  | some ⟨.right, width⟩, text => List.replicate (width - text.length) ' ' ++ text

end Alignment

-- The count of what is not seen is exact, so that the padding is measured by the text.
theorem Buffer.Counts.padded {theme : Theme} {write : Buffer → Buffer × Nat} {text : List Char}
    (h : Buffer.Counts theme write text) (hcoded : theme.Coded) (alignment : Option Alignment) :
    Buffer.Counts theme
      (fun b => (Alignment.padOptional alignment b (write b).2 (write b).1, (write b).2))
      (Alignment.padded alignment text) := by
  obtain ⟨bytes, count, hbytes, happends, hcount⟩ := h
  have hlength (b : Buffer) :
      Text.columns ((write b).1.writtenSince b.position) - (write b).2 = text.length := by
    rw [Buffer.writtenSince_appended (happends b), hbytes.columns_eq hcoded, hcount]
    omega
  rcases alignment with _ | ⟨_ | _, width⟩
  · exact ⟨bytes, count, hbytes, happends, hcount⟩
  · refine ⟨_, _, hbytes.append (.plain _), fun b => ?_, hcount⟩
    simp only [Alignment.padOptional, Alignment.pad, hlength]
    rw [Buffer.appends_spaces, happends b, List.append_assoc]
  · refine ⟨_, _, (Dressed.plain _).append hbytes, fun b => ?_, fun b => ?_⟩
    · simp only [Alignment.padOptional, Alignment.pad, hlength]
      exact Buffer.committed_insertSpaces_appended (happends b) _
    · rw [Nat.zero_add]
      exact hcount b

end EventText
