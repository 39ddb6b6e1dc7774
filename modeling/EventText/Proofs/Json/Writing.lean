import EventText.Json.Writer

namespace EventText

namespace Json

variable (theme : Theme)

-- What writing pieces makes of an output and of the count up to it.
def extend (pieces : List Styled) (output : Buffer × Nat) : Buffer × Nat :=
  ((writeStyled theme pieces output.1).1, output.2 + (writeStyled theme pieces output.1).2)

theorem extend_zero (pieces : List Styled) (b : Buffer) :
    extend theme pieces (b, 0) = writeStyled theme pieces b :=
  Prod.ext rfl (Nat.zero_add _)

theorem extend_cons (piece : Styled) (rest : List Styled) (output : Buffer × Nat) :
    extend theme (piece :: rest) output = extend theme rest (writeToken theme piece output) :=
  Prod.ext rfl (Nat.add_assoc _ _ _).symm

theorem extend_append (pieces others : List Styled) (output : Buffer × Nat) :
    extend theme (pieces ++ others) output = extend theme others (extend theme pieces output) := by
  induction pieces generalizing output with
  | nil => rfl
  | cons piece rest ih => rw [List.cons_append, extend_cons, extend_cons, ih]

theorem extend_comma (first : Bool) (others : List Styled) (output : Buffer × Nat) :
    extend theme ((if first then [] else [punctuation ',']) ++ others) output
      = extend theme others (writeComma theme first output) := by
  cases first with
  | true => rfl
  | false => exact extend_cons theme _ others output

theorem extend_tagTokens (first : Bool) (tag : Option String) (output : Buffer × Nat) :
    extend theme (tagTokens first tag) output = writeTag theme first tag output := by
  cases tag with
  | none => rfl
  | some tag =>
    rw [tagTokens, extend_comma, extend_cons, extend_cons, extend_cons]
    rfl

-- The counts of the containers add up to that of all tokens in one row.

mutual

theorem write_eq (value : Value) (b : Buffer) :
    write theme value b = writeStyled theme (tokens value) b := by
  rw [← extend_zero]
  cases value with
  | scalar s => rw [write, tokens, extend_cons]; rfl
  | sequence items =>
    rw [write, tokens, List.cons_append, extend_cons, extend_append, writeItems_eq, extend_cons]
    rfl
  | record members tag =>
    rw [write, tokens, List.append_assoc, List.cons_append, extend_cons, extend_append,
      extend_append, writeMembers_eq, extend_tagTokens, extend_cons]
    rfl
  | dictionary entries =>
    rw [write, tokens, List.cons_append, extend_cons, extend_append, writeEntries_eq, extend_cons]
    rfl

theorem writeItems_eq (first : Bool) (items : List Value) (output : Buffer × Nat) :
    writeItems theme first items output = extend theme (itemTokens first items) output := by
  cases items with
  | nil => rfl
  | cons item rest =>
    rw [itemTokens, List.append_assoc, extend_comma, extend_append, writeItems]
    simp only [write_eq, writeItems_eq]
    rfl

theorem writeMembers_eq (first : Bool) (members : List (String × Value))
    (output : Buffer × Nat) :
    writeMembers theme first members output
      = extend theme (memberTokens first members) output := by
  cases members with
  | nil => rfl
  | cons member rest =>
    obtain ⟨name, value⟩ := member
    rw [memberTokens, List.append_assoc, extend_comma, List.cons_append, List.cons_append,
      extend_cons, extend_cons, extend_append, writeMembers]
    simp only [write_eq, writeMembers_eq]
    rfl

theorem writeEntries_eq (first : Bool) (entries : List (Scalar × Value))
    (output : Buffer × Nat) :
    writeEntries theme first entries output
      = extend theme (entryTokens first entries) output := by
  cases entries with
  | nil => rfl
  | cons entry rest =>
    obtain ⟨key, value⟩ := entry
    rw [entryTokens, List.append_assoc, extend_comma, List.cons_append, List.cons_append,
      extend_cons, extend_cons, extend_append, writeEntries]
    simp only [write_eq, writeEntries_eq]
    rfl

end

end Json

end EventText
