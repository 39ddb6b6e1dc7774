import EventText.Expr.Plan
import EventText.Proofs.Template.Appending
import EventText.Proofs.Template.Tokens

namespace EventText

open Text (encodeChars encodeChars_append)
open Buffer (Appends Counts Measured)

def MessageToken.isFormatted (token : MessageToken) : Bool :=
  token.hole?.any (·.format.isSome)

-- A theme whose sequences are texts.
def Theme.ofTexts (sequences : Role → Option String) : Theme :=
  ⟨fun role => (sequences role).map Text.encode⟩

namespace Buffer

-- The writer appends the encoding of a text, which does not depend on the buffer.
def Spells (write : Buffer → Buffer) : Prop := ∃ chars, Appends write (encodeChars chars)

theorem encodeChars_of_dressed {sequences : Role → Option String} {text : List Char}
    {bytes : Bytes} {count : Nat} (h : Dressed (Theme.ofTexts sequences) text bytes count) :
    ∃ chars, bytes = encodeChars chars := by
  induction h with
  | nil => exact ⟨[], rfl⟩
  | char c rest ih =>
    obtain ⟨chars, rfl⟩ := ih
    exact ⟨c :: chars, rfl⟩
  | sequence sends rest ih =>
    obtain ⟨chars, rfl⟩ := ih
    obtain ⟨role, style, hstyle, rfl | rfl⟩ := sends
    · obtain ⟨text, -, rfl⟩ := Option.map_eq_some_iff.mp hstyle
      exact ⟨text.toList ++ chars, (encodeChars_append _ _).symm⟩
    · have hreset : Style.resetCode = encodeChars ['\x1B', '[', '0', 'm'] := by decide
      rw [hreset, ← encodeChars_append]
      exact ⟨_, rfl⟩

variable {sequences : Role → Option String} {write : Buffer → Buffer × Nat} {text : List Char}

theorem Counts.spells (h : Counts (Theme.ofTexts sequences) write text) :
    Spells fun b => (write b).1 := by
  obtain ⟨bytes, count, hdressed, hbytes, -⟩ := h
  obtain ⟨chars, rfl⟩ := encodeChars_of_dressed hdressed
  exact ⟨chars, hbytes⟩

theorem Counts.spells_padded (h : Counts (Theme.ofTexts sequences) write text)
    (alignment : Option Alignment) :
    Spells fun b => Alignment.padOptional alignment b (write b).2 (write b).1 := by
  obtain ⟨bytes, count, hdressed, hbytes, hcount⟩ := h
  obtain ⟨chars, rfl⟩ := encodeChars_of_dressed hdressed
  obtain ⟨before, after, happends⟩ := exists_appends_padded hbytes hcount alignment
  rw [← encodeChars_append, ← encodeChars_append] at happends
  exact ⟨_, happends⟩

end Buffer

open Buffer (Spells)

namespace Message

-- What a token of a message is written as, on its own.
def segment (look : Look) (properties : Properties) (token : MessageToken) : Bytes :=
  (writeToken look properties token Buffer.empty).1.committed

-- The same read as a text.
def segmentText (look : Look) (properties : Properties) (token : MessageToken) : String :=
  Text.decode (segment look properties token)

variable (look : Look) (properties : Properties) (tokens : List MessageToken)

theorem measured_writeToken (token : MessageToken) :
    Measured (writeToken look properties token) := by
  cases token with
  | text chars => exact (counts_writeStyled look.theme [(.text, chars)]).measured
  | hole hole => exact measured_writeHole look properties hole

-- Every token is written in the same way wherever it stands.
theorem appends_writeToken (token : MessageToken) :
    Appends (fun b => (writeToken look properties token b).1) (segment look properties token) := by
  obtain ⟨bytes, -, hbytes, -⟩ := measured_writeToken look properties token
  have hsegment : segment look properties token = bytes := hbytes Buffer.empty
  rw [hsegment]
  exact hbytes

theorem appends_write : Appends (fun b => (write look properties tokens b).1)
    (tokens.flatMap (segment look properties)) := by
  induction tokens with
  | nil => exact Buffer.appends_id
  | cons token rest ih => exact (appends_writeToken look properties token).comp ih

theorem renderings_eq : renderings look properties tokens =
    (tokens.filter (·.isFormatted)).map (segmentText look properties) := by
  induction tokens with
  | nil => rfl
  | cons token rest ih =>
    cases token with
    | text chars => exact ih
    | hole hole =>
      have hholes : MessageTemplate.holes (.hole hole :: rest) =
          hole :: MessageTemplate.holes rest := rfl
      have hformatted : (MessageToken.hole hole).isFormatted = hole.format.isSome := rfl
      rw [renderings] at ih ⊢
      rw [hholes, List.filter_cons, List.filter_cons, hformatted]
      split
      · rw [List.map_cons, List.map_cons, ih]
        rfl
      · exact ih

theorem exists_segment_eq (sequences : Role → Option String) (culture : Culture)
    (token : MessageToken) :
    ∃ chars, segment ⟨Theme.ofTexts sequences, culture⟩ properties token = encodeChars chars := by
  have hspells : Spells fun b =>
      (writeToken ⟨Theme.ofTexts sequences, culture⟩ properties token b).1 := by
    cases token with
    | text chars =>
      exact (counts_writeStyled (Theme.ofTexts sequences) [(.text, chars)]).spells
    | hole hole =>
      simp only [writeToken, writeHole]
      cases properties.get? hole.name with
      | none =>
        exact (counts_writeStyled (Theme.ofTexts sequences) [(.invalid, hole.raw.toList)]).spells
      | some value =>
        exact (counts_writeValue ⟨Theme.ofTexts sequences, culture⟩ hole.format
          value).spells_padded hole.alignment
  obtain ⟨chars, hchars⟩ := hspells
  exact ⟨chars, hchars Buffer.empty⟩

-- Nothing is lost between the bytes of a segment and its text, if the theme is one of texts.
theorem encode_segmentText (sequences : Role → Option String) (culture : Culture)
    (token : MessageToken) :
    Text.encode (segmentText ⟨Theme.ofTexts sequences, culture⟩ properties token) =
      segment ⟨Theme.ofTexts sequences, culture⟩ properties token := by
  obtain ⟨chars, hchars⟩ := exists_segment_eq properties sequences culture token
  rw [segmentText, hchars, Text.decode_encodeChars, Text.encode, String.toList_ofList]
  rfl

theorem flatMap_segment (sequences : Role → Option String) (culture : Culture) :
    tokens.flatMap (segment ⟨Theme.ofTexts sequences, culture⟩ properties) =
      encodeChars (tokens.flatMap fun token =>
        (segmentText ⟨Theme.ofTexts sequences, culture⟩ properties token).toList) := by
  induction tokens with
  | nil => rfl
  | cons token rest ih =>
    rw [List.flatMap_cons, List.flatMap_cons, encodeChars_append, ← ih,
      ← encode_segmentText properties sequences culture token]
    rfl

end Message

theorem Event.toList_message_segments (event : Event) :
    event.message.toList = (MessageTemplate.read event.messageTemplate).flatMap fun token =>
      (Message.segmentText Look.plain event.properties token).toList := by
  have hmessage : event.message = Text.decode ((MessageTemplate.read event.messageTemplate).flatMap
      (Message.segment Look.plain event.properties)) :=
    congrArg Text.decode (Message.appends_write Look.plain event.properties _ Buffer.empty)
  have hplain := Message.flatMap_segment event.properties
    (MessageTemplate.read event.messageTemplate) (fun _ => none) Culture.invariant
  rw [hmessage]
  refine (congrArg (String.toList ∘ Text.decode) hplain).trans ?_
  rw [Function.comp_apply, Text.decode_encodeChars, String.toList_ofList]
  rfl

-- There are renderings exactly if a hole has a format.
theorem Event.renderings_eq (event : Event) :
    event.renderings =
      if ∃ token ∈ MessageTemplate.read event.messageTemplate, token.isFormatted then
        .value (.sequence (((MessageTemplate.read event.messageTemplate).filter
          (·.isFormatted)).map (Value.ofString ∘ Message.segmentText Look.plain event.properties)))
      else .undefined := by
  simp only [renderings, Message.renderings_eq]
  split
  · next hnil =>
    rw [if_neg]
    rintro ⟨token, hmem, hformatted⟩
    rw [List.map_eq_nil_iff, List.filter_eq_nil_iff] at hnil
    exact hnil token hmem hformatted
  · next hne =>
    rw [if_pos, List.map_map]
    rw [List.map_eq_nil_iff, List.filter_eq_nil_iff] at hne
    simpa using hne

-- A message is the segments of its tokens, in order, and its renderings are the segments of its
-- formatted tokens. As these are texts, only a theme whose sequences are not can keep their bytes
-- from being the same.
theorem Message.renderings_are_segments (properties : Properties) (tokens : List MessageToken) :
    (∀ look, (∀ token, Appends (fun b => (writeToken look properties token b).1)
          (segment look properties token)) ∧
        Appends (fun b => (write look properties tokens b).1)
          (tokens.flatMap (segment look properties)) ∧
        renderings look properties tokens =
          (tokens.filter (·.isFormatted)).map (segmentText look properties)) ∧
      (∀ sequences culture,
        (renderings ⟨Theme.ofTexts sequences, culture⟩ properties tokens).map Text.encode =
          (tokens.filter (·.isFormatted)).map
            (segment ⟨Theme.ofTexts sequences, culture⟩ properties)) ∧
      ∀ event : Event,
        (event.message.toList = (MessageTemplate.read event.messageTemplate).flatMap fun token =>
          (segmentText Look.plain event.properties token).toList) ∧
        BuiltinProperty.renderings.ofEvent event =
          if ∃ token ∈ MessageTemplate.read event.messageTemplate, token.isFormatted then
            .value (.sequence (((MessageTemplate.read event.messageTemplate).filter
              (·.isFormatted)).map (Value.ofString ∘ segmentText Look.plain event.properties)))
          else .undefined := by
  refine ⟨fun look => ⟨appends_writeToken look properties, appends_write look properties tokens,
    renderings_eq look properties tokens⟩, fun sequences culture => ?_,
    fun event => ⟨event.toList_message_segments, event.renderings_eq⟩⟩
  rw [renderings_eq, List.map_map]
  exact List.map_congr_left fun token _ => encode_segmentText properties sequences culture token

end EventText
