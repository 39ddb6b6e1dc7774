import EventText.Proofs.Output.Dressing
import EventText.Proofs.Time.Layout

namespace EventText

open Text (encodeChars encodeChars_append)
open Buffer (Appends Shows Counts)

-- The general format is what a number is written in when it has no other one.

private theorem text?_general (n : Number) (culture : Culture) (h : n.notFinite? = none) :
    n.text? ['G'] culture = some (n.generalText culture) := by
  have hformat : Number.Format.read? ['G'] = some (.standard 'G' none) := rfl
  rw [Number.text?, h]
  simp only [hformat]
  rfl

private theorem flatMap_point (chars : List Char) :
    (chars.flatMap fun c => if c = '.' then ".".toList else [c]) = chars := by
  induction chars with
  | nil => rfl
  | cons c chars ih =>
      rw [List.flatMap_cons, ih]
      split
      · next hpoint => rw [hpoint]; rfl
      · rfl

-- The common cases write the same text without the detour over a format.
theorem Scalar.appends_write (format : Option String) (culture : Culture) (s : Scalar) :
    Appends (s.write format culture) (encodeChars (s.formatted format culture)) := by
  intro b
  have hwritten (text : List Char) (h : s.formatted format culture = text) :
      (b.writeChars text).committed
        = b.committed ++ encodeChars (s.formatted format culture) := by
    rw [h]
    exact Buffer.appends_writeChars text b
  unfold write
  split
  · refine hwritten _ ?_
    rw [formatted, numberText, Option.bind_none, text?_general _ _ rfl]
    rfl
  · refine hwritten _ ?_
    rw [formatted, numberText, Option.bind_none, text?_general _ _ rfl]
    rfl
  · next x =>
    split
    · next hcommon =>
      rw [Bool.and_eq_true, beq_iff_eq] at hcommon
      have hfinite : (Number.float x).notFinite? = none := if_pos hcommon.1
      refine hwritten _ ?_
      rw [formatted, numberText, Option.bind_none, text?_general _ _ hfinite]
      simp only [Number.generalText, hcommon.2, Option.getD_some]
      exact flatMap_point _
    · exact hwritten _ rfl
  · exact hwritten _ rfl

theorem Layout.committed_attempt {layout : Layout} {t : Timestamp} {room : Nat} {b after : Buffer}
    (h : layout.attempt? t room b = .ok (some after)) :
    after.committed = b.committed ++ encodeChars (layout.text t) := by
  obtain ⟨filled, hfill, hafter⟩ := bind_eq_ok.mp h
  obtain ⟨bytes, rfl, rfl⟩ := Option.map_eq_some_iff.mp (pure_eq_ok.mp hafter)
  obtain ⟨rfl, hlength⟩ := eq_of_fill? hfill
  rw [Buffer.committed_advance, Buffer.committed_fillWindow, Buffer.committed_reserve,
    Buffer.take_fillWindow hlength]

theorem Layout.appends_write (layout : Layout) (t : Timestamp) :
    Appends (layout.write t) (encodeChars (layout.text t)) := by
  intro b
  unfold write
  cases hwritten : layout.write? t b with
  | error fault => exact Buffer.appends_writeChars _ b
  | ok after =>
      obtain ⟨room, hattempt⟩ := attempt_of_write? hwritten
      exact committed_attempt hattempt

-- Texts of seven bits are as long as their bytes, so that counting bytes counts characters.
theorem Alignment.appends_writeAscii (alignment : Option Alignment) {text : List Char}
    (hascii : ∀ c ∈ text, c.toNat < 128) :
    Appends (writeAscii alignment (encodeChars text)) (encodeChars (padded alignment text)) := by
  have hlength := Text.length_encodeChars_ascii hascii
  have htext := Buffer.appends_writeChars text
  rcases alignment with _ | ⟨_ | _, width⟩
  · exact htext
  · rw [padded, encodeChars_append, ← hlength]
    exact htext.comp (Buffer.appends_spaces _)
  · rw [padded, encodeChars_append, ← hlength]
    exact (Buffer.appends_spaces _).comp htext

namespace Level

private theorem names_ascii : ∀ level : Level, ∀ name ∈ level.name :: level.shortForms,
    ∀ c ∈ name.toList, c.toNat < 128 ∧ c.toLower.toNat < 128 ∧ c.toUpper.toNat < 128 := by
  have hall (level : Level) : (level.name :: level.shortForms).all (fun name => name.toList.all
      fun c => decide (c.toNat < 128 ∧ c.toLower.toNat < 128 ∧ c.toUpper.toNat < 128)) = true := by
    cases level <;> decide
  intro level name hname c hc
  have hname := List.all_eq_true.mp (hall level) name hname
  exact of_decide_eq_true (List.all_eq_true.mp hname c hc)

private theorem casing_ascii {c : Char}
    (h : c.toNat < 128 ∧ c.toLower.toNat < 128 ∧ c.toUpper.toNat < 128) (first : Option Char) :
    (casing first c).toNat < 128 := by
  unfold casing
  split
  · exact h.2.1
  · exact h.2.2
  · exact h.1

theorem moniker_ascii (level : Level) (format : Option String) :
    ∀ c ∈ level.moniker format, c.toNat < 128 := by
  have happly : ∀ name ∈ level.name :: level.shortForms, ∀ first,
      ∀ c ∈ name.toList.map (casing first), c.toNat < 128 := by
    intro name hname first c hc
    obtain ⟨plain, hplain, rfl⟩ := List.mem_map.mp hc
    exact casing_ascii (names_ascii level name hname plain hplain) first
  intro c hc
  unfold moniker at hc
  simp only at hc
  split at hc
  · next width hwidth =>
    split at hc
    · rw [List.getD_eq_getElem?_getD] at hc
      cases hshort : level.shortForms[width - 1]? with
      | none =>
          rw [hshort] at hc
          cases hc
      | some name =>
          rw [hshort] at hc
          exact happly name (List.mem_cons_of_mem _ (List.mem_of_getElem? hshort)) _ c hc
    · exact happly _ List.mem_cons_self _ c (List.mem_of_mem_take hc)
  · exact happly _ List.mem_cons_self _ c hc

end Level

namespace Message

-- The text of a value in a message.
def valueText (culture : Culture) (format : Option String) : Value → List Char
  | .scalar s => s.formatted format culture
  | value => value.json

def holeText (culture : Culture) (properties : Properties) (hole : MessageHole) : List Char :=
  match properties.get? hole.name with
  | none => hole.raw.toList
  | some value => Alignment.padded hole.alignment (valueText culture hole.format value)

def tokenText (culture : Culture) (properties : Properties) : MessageToken → List Char
  | .text chars => chars
  | .hole hole => holeText culture properties hole

def text (culture : Culture) (properties : Properties) (tokens : List MessageToken) : List Char :=
  tokens.flatMap (tokenText culture properties)

variable (look : Look) (properties : Properties)

theorem counts_writeValue (format : Option String) (value : Value) :
    Counts look.theme (writeValue look format value) (valueText look.culture format value) := by
  cases value with
  | scalar s => exact (s.appends_write format look.culture).styled look.theme s.role
  | sequence items => exact Json.counts_write look.theme _
  | record members tag => exact Json.counts_write look.theme _
  | dictionary entries => exact Json.counts_write look.theme _

private theorem counts_alone (theme : Theme) (role : Role) (chars : List Char) :
    Counts theme (writeStyled theme [(role, chars)]) chars := by
  have hpiece := counts_writeStyled theme [(role, chars)]
  rw [List.flatMap_cons, List.flatMap_nil, List.append_nil] at hpiece
  exact hpiece

-- What the padding of a hole adds is seen, so that the count stays that of the value.
theorem counts_writeHole (hcoded : look.theme.Coded) (hole : MessageHole) :
    Counts look.theme (writeHole look properties hole)
      (holeText look.culture properties hole) := by
  unfold writeHole holeText
  cases properties.get? hole.name with
  | none => exact counts_alone look.theme .invalid hole.raw.toList
  | some value => exact (counts_writeValue look hole.format value).padded hcoded hole.alignment

theorem counts_writeToken (hcoded : look.theme.Coded) (token : MessageToken) :
    Counts look.theme (writeToken look properties token)
      (tokenText look.culture properties token) := by
  cases token with
  | text chars => exact counts_alone look.theme .text chars
  | hole hole => exact counts_writeHole look properties hcoded hole

theorem counts_write (hcoded : look.theme.Coded) (tokens : List MessageToken) :
    Counts look.theme (write look properties tokens) (text look.culture properties tokens) := by
  induction tokens with
  | nil => exact Buffer.appends_id.counts
  | cons token rest ih => exact (counts_writeToken look properties hcoded token).comp ih

end Message

end EventText
