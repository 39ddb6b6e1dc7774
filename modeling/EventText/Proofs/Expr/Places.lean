import EventText.Proofs.Expr.Calls
import EventText.Proofs.Expr.Levels
import EventText.Proofs.Expr.Taking
import EventText.Proofs.Text.Utf8

namespace EventText

namespace Text

-- A byte offset where a character of the source starts, or its end.
def Boundary (source : List Char) (position : Nat) : Prop :=
  ∃ front back, source = front ++ back ∧ position = encodedLength front

theorem Boundary.le_encodedLength {source : List Char} {position : Nat}
    (h : Boundary source position) : position ≤ encodedLength source := by
  obtain ⟨front, back, rfl, rfl⟩ := h
  rw [encodedLength_append]
  exact Nat.le_add_right _ _

end Text

open Text (Boundary encodedLength encodedLength_append)

-- The rest of this source, with the offset at which it starts.
def Cursor.In (source : List Char) (c : Cursor) : Prop :=
  ∃ front, source = front ++ c.chars ∧ c.position = encodedLength front

namespace Cursor

variable {source : List Char} {c : Cursor}

theorem In.boundary (h : c.In source) : Boundary source c.position := by
  obtain ⟨front, hsource, hposition⟩ := h
  exact ⟨front, c.chars, hsource, hposition⟩

theorem In.drop (h : c.In source) (count : Nat) : (c.drop count).In source := by
  obtain ⟨front, hsource, hposition⟩ := h
  refine ⟨front ++ c.chars.take count, ?_, ?_⟩
  · rw [List.append_assoc, Cursor.drop, List.take_append_drop, hsource]
  · rw [encodedLength_append, ← hposition]
    rfl

theorem In.skipWhile (h : c.In source) (p : Char → Bool) : (c.skipWhile p).In source := h.drop _

theorem in_ofString (source : String) : (ofString source).In source.toList := ⟨[], rfl, rfl⟩

end Cursor

-- The characters of a token, as far as they are kept in it.
def Token.Spells : Token → List Char → Prop
  | .identifier name, chars => chars = name.toList
  | .symbol s, chars => chars = s.spelling.toList
  | _, _ => True

namespace Lexer

private theorem spells_decimalToken (chars spelled : List Char) :
    (decimalToken chars).1.Spells spelled := by
  rcases decimalToken_number chars with ⟨_, h⟩ | ⟨_, h⟩ <;> rw [h] <;> trivial

private theorem spells_hexToken? {digits spelled : List Char} {token : Token}
    (h : hexToken? digits = some token) : token.Spells spelled := by
  rcases hexToken?_number h with ⟨_, rfl⟩ | ⟨_, rfl⟩ <;> trivial

theorem Scanned.spells {chars : List Char} {token : Token} {count : Nat}
    (h : Scanned chars token count) : token.Spells (chars.take count) := by
  cases h with
  | eof | string _ | builtin _ => trivial
  | hexadecimal _ htoken => exact spells_hexToken? htoken
  | decimal _ _ => exact spells_decimalToken _ _
  | @name c rest _ _ _ _ =>
      have hspan :=
        List.prefix_iff_eq_take.mp (List.takeWhile_prefix Text.isNameChar (l := c :: rest))
      rw [Token.Spells, String.toList_ofList]
      exact hspan.symm
  | symbol _ _ _ _ hsymbol =>
      obtain ⟨hfront, rfl⟩ := spelling_of_symbol? hsymbol
      exact (List.prefix_iff_eq_take.mp hfront).symm

end Lexer

-- A place of this source: the token stands where the place says, and the rest follows it.
structure Lookahead.In (source : List Char) (s : Lookahead) : Prop where
  token : ∃ front spelled, source = front ++ spelled ++ s.rest.chars ∧
    s.position = encodedLength front ∧ s.token.Spells spelled
  stop : s.current.stop = s.rest.position
  rest : s.rest.In source

namespace Lookahead

-- Blanks stand before the token that is taken, and the rest behind it.
theorem ofCursor_eq_ok {c : Cursor} {s : Lookahead} (h : ofCursor c = .ok s) :
    ∃ blanks spelled, (∀ b ∈ blanks, Text.isBlank b) ∧
      c.chars = blanks ++ spelled ++ s.rest.chars ∧
      s.position = c.position + encodedLength blanks ∧
      s.rest.position = s.position + encodedLength spelled ∧
      s.current.stop = s.rest.position ∧ s.token.Spells spelled ∧
      (s.token ≠ .eof → spelled ≠ []) := by
  obtain ⟨⟨lexeme, rest⟩, hnext, hs⟩ := bind_eq_ok.mp h
  cases hs
  obtain ⟨blanks, word, htakes⟩ := Lexer.exists_takes hnext
  have hspells := htakes.scanned.spells
  rw [List.take_length] at hspells
  refine ⟨blanks, word, htakes.blank, ?_, htakes.start, htakes.position.trans htakes.stop,
    htakes.position.symm, hspells, fun hne => ?_⟩
  · rw [htakes.chars, List.append_assoc]
  · exact List.ne_nil_of_length_pos (htakes.scanned.length.2 hne)

end Lookahead

-- A computation in a source: what it gives has a property, and it goes wrong only at a character of
-- the source.
def Keeps (source : List Char) (P : α → Prop) : Except TemplateError α → Prop
  | .ok a => P a
  | .error failed => ∃ fault position, failed = .parse fault position ∧ Boundary source position

namespace Keeps

variable {source : List Char} {P : α → Prop} {Q : β → Prop} {x y : Except TemplateError α}

theorem error {fault : ParseFault} {position : Nat} (h : Boundary source position) :
    Keeps source P (.error (.parse fault position)) := ⟨fault, position, rfl, h⟩

theorem imp {P' : α → Prop} (h : Keeps source P x) (hP : ∀ a, P a → P' a) :
    Keeps source P' x := by
  cases x with
  | ok a => exact hP a h
  | error failed => exact h

theorem bind {f : α → Except TemplateError β} (h : Keeps source P x)
    (hf : ∀ a, x = .ok a → P a → Keeps source Q (f a)) : Keeps source Q (x >>= f) := by
  cases x with
  | ok a => exact hf a rfl h
  | error failed => exact h

theorem ite {c : Prop} [Decidable c] (hthen : c → Keeps source P x)
    (helse : ¬ c → Keeps source P y) : Keeps source P (if c then x else y) := by
  split
  · next hc => exact hthen hc
  · next hc => exact helse hc

end Keeps

namespace Lookahead

variable {source : List Char} {s : Lookahead}

theorem In.boundary (h : s.In source) : Boundary source s.position := by
  obtain ⟨front, spelled, hsource, hposition, -⟩ := h.token
  rw [List.append_assoc] at hsource
  exact ⟨front, _, hsource, hposition⟩

-- Where the token ends and the rest starts.
theorem In.position_rest (h : s.In source) {front spelled : List Char}
    (hsource : source = front ++ spelled ++ s.rest.chars) :
    s.rest.position = encodedLength (front ++ spelled) := by
  obtain ⟨before, hbefore, hposition⟩ := h.rest
  rw [hposition, List.append_cancel_right (hbefore.symm.trans hsource)]

theorem keeps_ofCursor {c : Cursor} (h : c.In source) :
    Keeps source (fun s => s.In source ∧ s.left ≤ c.chars.length) (ofCursor c) := by
  cases hread : ofCursor c with
  | ok s =>
      obtain ⟨front, hsource, hposition⟩ := h
      obtain ⟨blanks, spelled, -, hchars, hstart, hrest, hstop, hspells, hne⟩ :=
        ofCursor_eq_ok hread
      have hwhole : source = front ++ blanks ++ spelled ++ s.rest.chars := by
        rw [hsource, hchars]
        simp only [List.append_assoc]
      have hfront : s.position = encodedLength (front ++ blanks) := by
        rw [encodedLength_append, ← hposition, hstart]
      refine ⟨⟨⟨_, spelled, hwhole, hfront, hspells⟩, hstop, _, hwhole, ?_⟩, ?_⟩
      · rw [encodedLength_append, ← hfront, hrest]
      · rw [hchars, List.length_append, List.length_append]
        unfold left
        split
        · omega
        · next hnot =>
          have hpos := List.length_pos_iff.mpr (hne hnot)
          omega
  | error failed =>
      have hblank := (h.skipWhile Text.isBlank).boundary
      rcases bind_eq_error.mp hread with hnext | ⟨_, -, hfailed⟩
      · unfold Lexer.next at hnext
        dsimp only at hnext
        split at hnext
        · cases hnext
        · cases hnext
          exact .error hblank
      · cases hfailed

-- The next token is not further from the end, and nearer to it if this one is not the end itself.
theorem keeps_advance (h : s.In source) :
    Keeps source (fun s' => s'.In source ∧ s'.left ≤ s.left ∧ (s.token ≠ .eof → s'.left < s.left))
      s.advance := by
  refine (keeps_ofCursor h.rest).imp fun s' hs' => ⟨hs'.1, ?_, fun hne => ?_⟩
  · exact hs'.2.trans (Nat.le_add_right _ _)
  · rw [Placement.left_eq hne]
    exact Nat.lt_succ_of_le hs'.2

end Lookahead

end EventText
