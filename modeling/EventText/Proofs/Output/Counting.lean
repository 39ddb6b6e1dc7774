import EventText.Proofs.Output.Showing

namespace EventText

open Text (encodeChars encodeChars_append)
open Buffer (Appends)

-- Whatever bytes the sequences of a theme are made of, they stand around the pieces that are
-- written without a theme, and all of their bytes are counted.

namespace Style

def opening : Style → Bytes
  | none => []
  | some code => code

def closing : Style → Bytes
  | none => []
  | some _ => resetCode

theorem appends_switchOn (style : Style) : Appends style.switchOn style.opening := by
  cases style with
  | none => exact Buffer.appends_id
  | some code => exact Buffer.appends_write code

theorem appends_switchOff (style : Style) : Appends style.switchOff style.closing := by
  cases style with
  | none => exact Buffer.appends_id
  | some _ => exact Buffer.appends_write resetCode

theorem invisible_eq (style : Style) :
    style.invisible = (style.opening ++ style.closing).length := by
  cases style with
  | none => rfl
  | some code => exact List.length_append.symm

end Style

namespace Theme

variable (theme : Theme)

-- The sequences around a piece, and the piece between them.

def around (piece : Styled) : Bytes :=
  (theme.style piece.1).opening ++ (theme.style piece.1).closing

def dress (piece : Styled) : Bytes :=
  (theme.style piece.1).opening ++ encodeChars piece.2 ++ (theme.style piece.1).closing

theorem flatMap_dress_none (pieces : List Styled) :
    pieces.flatMap none.dress = encodeChars (pieces.flatMap (·.2)) := by
  induction pieces with
  | nil => rfl
  | cons piece rest ih =>
    have hplain : none.dress piece = encodeChars piece.2 := List.append_nil _
    rw [List.flatMap_cons, List.flatMap_cons, encodeChars_append, ih, hplain]

theorem length_flatMap_dress (pieces : List Styled) :
    (pieces.flatMap theme.dress).length
      = (encodeChars (pieces.flatMap (·.2))).length + (pieces.flatMap theme.around).length := by
  induction pieces with
  | nil => rfl
  | cons piece rest ih =>
    simp only [List.flatMap_cons, encodeChars_append, List.length_append, ih, dress, around]
    omega

end Theme

namespace Buffer

-- What a writer puts behind the bytes that are there: pieces, which do not depend on the theme,
-- each between the sequences of its look. The number is that of the bytes of these sequences.
structure Inserts (write : Theme → Buffer → Buffer × Nat) (pieces : List Styled) : Prop where
  themed : ∀ theme, Appends (fun b => (write theme b).1) (pieces.flatMap theme.dress)
  count : ∀ theme b, (write theme b).2 = (pieces.flatMap theme.around).length

-- What this comes to at one place: the output in a theme is the one without a theme with sequences
-- put in at the ends of its pieces, and is longer by the count.
structure CountsExactly (write : Theme → Buffer → Buffer × Nat) (pieces : List Styled)
    (theme : Theme) (b : Buffer) : Prop where
  themed : (write theme b).1.committed = b.committed ++ pieces.flatMap theme.dress
  unthemed : (write Theme.none b).1.committed = b.committed ++ encodeChars (pieces.flatMap (·.2))
  sequences : (write theme b).2 = (pieces.flatMap theme.around).length
  difference : ((write theme b).1.writtenSince b.position).length
    = ((write Theme.none b).1.writtenSince b.position).length + (write theme b).2

namespace Inserts

variable {write writeRest : Theme → Buffer → Buffer × Nat} {pieces others : List Styled}

theorem nil : Inserts (fun _ b => (b, 0)) [] := ⟨fun _ => appends_id, fun _ _ => rfl⟩

-- A text in the look of a role.
theorem single {content : Buffer → Buffer} {chars : List Char}
    (h : Appends content (encodeChars chars)) (role : Role) :
    Inserts (fun theme b => ((theme.style role).switchOff (content ((theme.style role).switchOn b)),
      (theme.style role).invisible)) [(role, chars)] := by
  constructor
  · intro theme
    rw [List.flatMap_singleton]
    exact ((Style.appends_switchOn _).comp h).comp (Style.appends_switchOff _)
  · intro theme b
    rw [List.flatMap_singleton]
    exact Style.invisible_eq _

theorem comp (hfirst : Inserts write pieces) (hrest : Inserts writeRest others) :
    Inserts (fun theme b => ((writeRest theme (write theme b).1).1,
      (write theme b).2 + (writeRest theme (write theme b).1).2)) (pieces ++ others) := by
  constructor
  · intro theme
    rw [List.flatMap_append]
    exact (hfirst.themed theme).comp (hrest.themed theme)
  · intro theme b
    rw [List.flatMap_append, List.length_append, hfirst.count, hrest.count]

theorem countsExactly (h : Inserts write pieces) (theme : Theme) (b : Buffer) :
    CountsExactly write pieces theme b := by
  have hunthemed : (write Theme.none b).1.committed
      = b.committed ++ encodeChars (pieces.flatMap (·.2)) := by
    rw [← Theme.flatMap_dress_none]
    exact h.themed Theme.none b
  refine ⟨h.themed theme b, hunthemed, h.count theme b, ?_⟩
  rw [writtenSince_appended (h.themed theme b), writtenSince_appended hunthemed, h.count,
    Theme.length_flatMap_dress]

end Inserts

end Buffer

open Buffer (Inserts CountsExactly)

theorem inserts_writeStyled (pieces : List Styled) :
    Inserts (fun theme => writeStyled theme pieces) pieces := by
  induction pieces with
  | nil => exact .nil
  | cons piece rest ih =>
    obtain ⟨role, chars⟩ := piece
    exact (Inserts.single (Buffer.appends_writeChars chars) role).comp ih

theorem Json.inserts_write (value : Value) :
    Inserts (fun theme => write theme value) (tokens value) := by
  have heq : (fun theme => write theme value) = fun theme => writeStyled theme (tokens value) :=
    funext fun theme => funext (write_eq theme value)
  rw [heq]
  exact inserts_writeStyled (tokens value)

namespace Message

variable (culture : Culture) (properties : Properties)

-- The pieces that a message is written in.

def valuePieces (format : Option String) : Value → List Styled
  | .scalar s => [(s.role, s.formatted format culture)]
  | value => Json.tokens value

def tokenPieces : MessageToken → List Styled
  | .text chars => [(.text, chars)]
  | .hole hole =>
      match properties.get? hole.name with
      | none => [(.invalid, hole.raw.toList)]
      | some value => valuePieces culture hole.format value

def pieces (tokens : List MessageToken) : List Styled :=
  tokens.flatMap (tokenPieces culture properties)

theorem inserts_writeValue (format : Option String) (value : Value) :
    Inserts (fun theme => writeValue ⟨theme, culture⟩ format value)
      (valuePieces culture format value) := by
  cases value with
  | scalar s => exact .single (s.appends_write format culture) s.role
  | sequence | record | dictionary => exact Json.inserts_write _

theorem inserts_writeToken {token : MessageToken}
    (h : ∀ hole ∈ token.hole?, hole.alignment = none) :
    Inserts (fun theme => writeToken ⟨theme, culture⟩ properties token)
      (tokenPieces culture properties token) := by
  cases token with
  | text chars => exact inserts_writeStyled _
  | hole hole =>
    have halignment : hole.alignment = none := h hole rfl
    rw [tokenPieces]
    cases hget : properties.get? hole.name with
    | none =>
      have hwrite : (fun theme => writeToken ⟨theme, culture⟩ properties (.hole hole))
          = fun theme => writeStyled theme [(.invalid, hole.raw.toList)] := by
        funext theme b
        simp only [writeToken, writeHole, hget]
      rw [hwrite]
      exact inserts_writeStyled _
    | some value =>
      have hwrite : (fun theme => writeToken ⟨theme, culture⟩ properties (.hole hole))
          = fun theme => writeValue ⟨theme, culture⟩ hole.format value := by
        funext theme b
        simp only [writeToken, writeHole, hget, halignment, Alignment.padOptional]
      rw [hwrite]
      exact inserts_writeValue culture hole.format value

theorem inserts_write {tokens : List MessageToken}
    (h : ∀ hole ∈ MessageTemplate.holes tokens, hole.alignment = none) :
    Inserts (fun theme => write ⟨theme, culture⟩ properties tokens)
      (pieces culture properties tokens) := by
  induction tokens with
  | nil => exact .nil
  | cons token rest ih =>
    have hfirst : ∀ hole ∈ token.hole?, hole.alignment = none := fun hole hhole =>
      h hole (List.mem_filterMap.mpr ⟨token, List.mem_cons_self, hhole⟩)
    have hrest : ∀ hole ∈ MessageTemplate.holes rest, hole.alignment = none := by
      intro hole hhole
      obtain ⟨other, hother, hsome⟩ := List.mem_filterMap.mp hhole
      exact h hole (List.mem_filterMap.mpr ⟨other, List.mem_cons_of_mem _ hother, hsome⟩)
    exact (inserts_writeToken culture properties hfirst).comp (ih hrest)

end Message

-- Values as JSON, and messages whose holes have no alignment.
theorem Theme.count_exact (theme : Theme) (culture : Culture) (b : Buffer) :
    (∀ value, CountsExactly (fun theme => Json.write theme value) (Json.tokens value) theme b) ∧
    (∀ properties tokens, (∀ hole ∈ MessageTemplate.holes tokens, hole.alignment = Option.none) →
      CountsExactly (fun theme => Message.write ⟨theme, culture⟩ properties tokens)
        (Message.pieces culture properties tokens) theme b) :=
  ⟨fun value => (Json.inserts_write value).countsExactly theme b,
    fun properties _ h => (Message.inserts_write culture properties h).countsExactly theme b⟩

-- An empty sequence, one that is a letter and one that is not even a text.
theorem Theme.count_exact_arbitrary :
    let theme : Theme := ⟨fun
      | .text => some []
      | .number => some (Text.encode "é")
      | .invalid => some [0xFF]
      | _ => Option.none⟩
    let tokens := MessageTemplate.read "n = \x7bN:000\x7d, \x7bM\x7d"
    let properties := Properties.ofList [("N", .scalar (.int 7))]
    (∀ hole ∈ MessageTemplate.holes tokens, hole.alignment = Option.none) ∧
      (Message.write ⟨theme, Culture.invariant⟩ properties tokens Buffer.empty).2 = 19 ∧
      (Message.write ⟨theme, Culture.invariant⟩ properties tokens Buffer.empty).1.committed
        = Text.encode "n = \x1B[0mé007\x1B[0m, \x1B[0m"
          ++ 0xFF :: Text.encode "\x7bM\x7d\x1B[0m" := by
  intro theme tokens properties
  have hplain : ∀ hole ∈ MessageTemplate.holes tokens, hole.alignment = Option.none := by
    decide +kernel
  obtain ⟨-, hmessage⟩ := Theme.count_exact theme Culture.invariant Buffer.empty
  have hexact := hmessage properties tokens hplain
  exact ⟨hplain, hexact.sequences.trans (by decide +kernel),
    hexact.themed.trans (by decide +kernel)⟩

end EventText
