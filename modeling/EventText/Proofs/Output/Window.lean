import EventText.Proofs.Output.Showing
import EventText.Proofs.Time.Clock

namespace EventText

open Text (encodeChars encodeChars_append)

-- The text of a timestamp fits into the window that is reserved for it.

-- Characters of seven bits, at most `room` of them.
def Text.Fits (room : Nat) (chars : List Char) : Prop :=
  (∀ c ∈ chars, c.toNat < 128) ∧ chars.length ≤ room

namespace Text.Fits

variable {room : Nat} {chars : List Char}

theorem length_encodeChars (h : Fits room chars) : (encodeChars chars).length ≤ room := by
  rw [length_encodeChars_ascii h.1]
  exact h.2

theorem mono {larger : Nat} (h : Fits room chars) (hroom : room ≤ larger) : Fits larger chars :=
  ⟨h.1, h.2.trans hroom⟩

theorem nil : Fits room [] := ⟨nofun, Nat.zero_le room⟩

theorem cons {c : Char} (hc : c.toNat < 128) (h : Fits room chars) : Fits (room + 1) (c :: chars) :=
  ⟨List.forall_mem_cons.mpr ⟨hc, h.1⟩, Nat.succ_le_succ h.2⟩

theorem append {other : Nat} {chars' : List Char} (h : Fits room chars) (h' : Fits other chars') :
    Fits (room + other) (chars ++ chars') := by
  refine ⟨List.forall_mem_append.mpr ⟨h.1, h'.1⟩, ?_⟩
  rw [List.length_append]
  exact Nat.add_le_add h.2 h'.2

theorem take (h : Fits room chars) (count : Nat) : Fits count (chars.take count) :=
  ⟨fun c hc => h.1 c (List.mem_of_mem_take hc), List.length_take_le count chars⟩

end Text.Fits

open Text (Fits)

-- A number has as many digits as the width asks for, or as many as it needs.

section Numbers

variable {digits : Nat} (hdigits : 0 < digits)
include hdigits

end Numbers

namespace Layout

section Pieces

variable {t : Timestamp}

end Pieces

end Layout

-- What a pattern of so many characters can ask for: fractions of one to nine digits, and years with
-- a place for each character.
def LayoutPiece.Sound (characters : Nat) : LayoutPiece → Prop
  | .fraction digits | .trimmedFraction digits _ => 1 ≤ digits ∧ digits ≤ 9
  | .year count => count ≤ characters
  | _ => True

namespace LayoutPiece.Sound

theorem mono {characters more : Nat} {piece : LayoutPiece} (h : piece.Sound characters)
    (hmore : characters ≤ more) : piece.Sound more := by
  cases piece with
  | year count => exact Nat.le_trans h hmore
  | _ => exact h

end LayoutPiece.Sound

namespace Layout

variable {t : Timestamp} {characters : Nat}

variable {layout : Layout}

end Layout

end EventText
