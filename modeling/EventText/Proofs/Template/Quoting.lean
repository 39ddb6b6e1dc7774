import EventText.Proofs.Message.Cutting
import EventText.Proofs.Template.Concatenation

namespace EventText

open Text (encodeChars)
open Buffer (Appends)
open MessageTemplate (isBrace isBrace_iff isBrace_eq_false_iff)

namespace Text

-- A text as it has to be written so that none of its braces means anything.
def doubled (chars : List Char) : List Char :=
  chars.flatMap fun c => if isBrace c then [c, c] else [c]

def quoted (text : String) : String := String.ofList (doubled text.toList)

variable {c : Char}

theorem doubled_brace (hc : isBrace c = true) (rest : List Char) :
    doubled (c :: rest) = c :: c :: doubled rest := by
  rw [doubled, List.flatMap_cons, if_pos hc]
  rfl

theorem doubled_other (hc : isBrace c = false) (rest : List Char) :
    doubled (c :: rest) = c :: doubled rest := by
  rw [doubled, List.flatMap_cons, if_neg (by simp [hc])]
  rfl

end Text

open Text (doubled quoted doubled_brace doubled_other)

namespace MessageTemplate

theorem not_pairs_of_not_brace {c : Char} (hc : isBrace c = false) (rest : List Char) :
    ¬ Pairs c rest := fun h => absurd h.1 (by simp [hc])

-- In a doubled text every brace is in a pair.
theorem collapse_doubled (chars : List Char) : collapse (doubled chars) = chars := by
  induction chars with
  | nil => rfl
  | cons c rest ih =>
    cases hc : isBrace c with
    | true => rw [doubled_brace hc, collapse_pair hc, ih]
    | false => rw [doubled_other hc, collapse_single (not_pairs_of_not_brace hc _), ih]

theorem openings_doubled (chars : List Char) : openings (doubled chars) = [] := by
  induction chars with
  | nil => rfl
  | cons c rest ih =>
    cases hc : isBrace c with
    | true => rw [doubled_brace hc, openings_pair hc, ih]
    | false =>
      rw [doubled_other hc, openings_single (not_pairs_of_not_brace hc _), if_neg, ih]
      rintro rfl
      cases hc

theorem read_quoted (text : String) : read (quoted text) = flush text.toList [] := by
  have hplain : Plain (doubled text.toList) [] :=
    ⟨by rw [List.append_nil, collapse, List.append_nil], by simp [openings_doubled]⟩
  obtain ⟨pieces, hcut, hpieces⟩ := Cut.nil.flush hplain (by simp)
  rw [collapse_doubled] at hcut
  exact hcut.read_eq (by simpa [quoted] using hpieces)

end MessageTemplate

-- A text that may be empty, as pieces.
def Piece.ofChars (chars : List Char) : List Piece := if chars = [] then [] else [.text chars]

theorem Piece.join_ofChars (c : Char) (chars : List Char) :
    Piece.join [.text [c]] (Piece.ofChars chars) = [.text (c :: chars)] := by
  by_cases h : chars = []
  · rw [h, ofChars, if_pos rfl, join_nil]
  · rw [ofChars, if_neg h, text_join_text, List.singleton_append]

namespace TemplateReader

-- One step for each character of the text, whether it takes one brace or two.
theorem step_doubled {cursor : Cursor} {c : Char} {rest : List Char}
    (h : cursor.chars = doubled (c :: rest)) :
    ∃ after, step cursor = .ok (.text [c], after) ∧ after.chars = doubled rest := by
  cases hc : isBrace c with
  | true =>
    rw [doubled_brace hc] at h
    have hstep : step cursor = .ok (.text [c], cursor.drop 2) := by
      rcases isBrace_iff.mp hc with rfl | rfl
      · exact step_doubleOpen h
      · exact step_doubleClose h
    exact ⟨_, hstep, by rw [Cursor.drop, h]; rfl⟩
  | false =>
    rw [doubled_other hc] at h
    obtain ⟨hopen, hclose⟩ := isBrace_eq_false_iff.mp hc
    exact ⟨_, step_other h hopen hclose, by rw [Cursor.drop, h]; rfl⟩

theorem read_doubled {cursor : Cursor} {chars : List Char} (h : cursor.chars = doubled chars) :
    read cursor = .ok (Piece.ofChars chars) := by
  induction chars generalizing cursor with
  | nil => exact read_nil h
  | cons c rest ih =>
    obtain ⟨after, hafter, hchars⟩ := step_doubled h
    have hne : cursor.chars ≠ [] := by
      rintro hnil
      rw [step, hnil] at hafter
      cases hafter
    rw [read_eq hne, hafter]
    simp only [bind, Except.bind, ih hchars, pure, Except.pure, Piece.join_ofChars]
    rw [Piece.ofChars, if_neg (List.cons_ne_nil c rest)]

end TemplateReader

namespace Template

theorem readAll_quoted (text : String) :
    Piece.readAll (quoted text) = .ok (Piece.ofChars text.toList) :=
  TemplateReader.read_doubled String.toList_ofList

theorem format_quoted (text : String) (culture : Culture) (resolver : Resolver) :
    ∃ template, Template.read (quoted text) ⟨Theme.none, culture⟩ resolver = .ok template ∧
      ∀ clock event, template.format clock event [] = encodeChars text.toList := by
  have hpieces := readAll_quoted text
  by_cases hempty : text.toList = []
  · rw [hempty, Piece.ofChars, if_pos rfl] at hpieces
    refine ⟨_, read_of_compiles hpieces rfl .nil _, fun clock event => ?_⟩
    rw [format_ofList, hempty]
    rfl
  · rw [Piece.ofChars, if_neg hempty] at hpieces
    refine ⟨_, read_of_compiles hpieces rfl (.cons .text .nil) _, fun clock event => ?_⟩
    rw [format_ofList, Node.written_literal rfl]

-- Doubling the braces of a text quotes it, in templates and in the messages of events.
theorem quoted_verbatim (text : String) :
    Piece.readAll (quoted text) = .ok (if text = "" then [] else [.text text.toList]) ∧
      MessageTemplate.read (quoted text) = (if text = "" then [] else [.text text.toList]) ∧
      (∀ culture resolver, ∃ template,
        Template.read (quoted text) ⟨Theme.none, culture⟩ resolver = .ok template ∧
        ∀ clock event, template.format clock event [] = encodeChars text.toList ∧
          template.render clock event = text) ∧
      (∀ culture properties, Appends
        (fun b =>
          (Message.write ⟨Theme.none, culture⟩ properties (MessageTemplate.read (quoted text)) b).1)
        (encodeChars text.toList)) ∧
      ∀ event : Event, Event.message { event with messageTemplate := quoted text } = text := by
  have hmessage (culture : Culture) (properties : Properties) :
      Message.text culture properties (MessageTemplate.read (quoted text)) = text.toList := by
    rw [MessageTemplate.read_quoted, MessageTemplate.flush]
    split
    · next hempty => simpa [Message.text] using hempty.symm
    · exact List.append_nil _
  refine ⟨?_, ?_, fun culture resolver => ?_, fun culture properties => ?_, fun event => ?_⟩
  · rw [readAll_quoted, Piece.ofChars]
    simp
  · rw [MessageTemplate.read_quoted, MessageTemplate.flush]
    simp
  · obtain ⟨template, hread, hformat⟩ := format_quoted text culture resolver
    refine ⟨template, hread, fun clock event => ⟨hformat clock event, ?_⟩⟩
    rw [render, hformat, Text.decode_encodeChars, String.ofList_toList]
  · rw [← hmessage culture properties]
    exact (Message.counts_write ⟨Theme.none, culture⟩ properties Theme.coded_none _).shows.appends
  · rw [← String.toList_inj, Event.toList_message]
    exact hmessage _ _

end Template

end EventText
