import EventText.Proofs.Expr.Arithmetic
import EventText.Proofs.Expr.Evaluation
import EventText.Proofs.Text.Occurrence

namespace EventText

-- The functions that give positions of a text and the functions that take them count alike. A
-- text has fewer than 2⁶³ characters, so that each of its positions is an integer of 64 bits.

theorem Scalar.index?_integer {s : Scalar} {k : Int} (h : s.integer? = some k) :
    s.index? = if 0 ≤ k ∧ k < 2 ^ 63 then some k.toNat else none := by
  cases s with
  | int n =>
      obtain rfl := Option.some.inj h
      have hhigh := n.toInt_lt
      simp only [index?, whole?, Option.bind_some]
      split <;> split <;> first | rfl | omega
  | uint n =>
      obtain rfl := Option.some.inj h
      simp only [index?, whole?]
      cases hk : int64OfInt? n.toNat with
      | some k =>
          have hvalue := int64OfInt?_eq_some_iff.mp hk
          have hhigh := k.toInt_lt
          rw [Option.bind_some, hvalue, if_pos (by omega), if_pos (by omega)]
      | none =>
          have hlarge := int64OfInt?_eq_none_iff.mp hk
          rw [Option.bind_none, if_neg (by omega)]
  | _ => cases h

theorem Scalar.integer?_ofNat {n : Nat} (h : n < 2 ^ 63) :
    Scalar.integer? (.int (Int64.ofNat n)) = some (n : Int) :=
  congrArg some (Int64.toInt_ofNat_of_lt h)

namespace Outcome

theorem string_ofList_eq_iff {chars : List Char} {text : String} :
    string (String.ofList chars) = string text ↔ chars = text.toList := by
  constructor
  · intro h
    have htext : String.ofList chars = text := by simpa [string] using h
    rw [← htext, String.toList_ofList]
  · rintro rfl
    rw [String.ofList_toList]

theorem ofNat_inj {m n : Nat} (hm : m < 2 ^ 63) (hn : n < 2 ^ 63) : ofNat m = ofNat n ↔ m = n := by
  constructor
  · intro h
    have hvalue : Int64.ofNat m = Int64.ofNat n := by simpa [ofNat, int] using h
    have hint := congrArg Int64.toInt hvalue
    rw [Int64.toInt_ofNat_of_lt hm, Int64.toInt_ofNat_of_lt hn] at hint
    exact_mod_cast hint
  · rintro rfl
    rfl

theorem ofNat_ne_minusOne {n : Nat} (hn : n < 2 ^ 63) : ofNat n ≠ int (-1) := by
  intro h
  have hvalue : Int64.ofNat n = -1 := by simpa [ofNat, int] using h
  have hint := congrArg Int64.toInt hvalue
  rw [Int64.toInt_ofNat_of_lt hn] at hint
  exact absurd hint (by have : (-1 : Int64).toInt = -1 := rfl; omega)

-- The difference of two numbers of characters.
theorem subtract_ofNat {m : Nat} {s : Scalar} {k : Int} (hm : m < 2 ^ 63) (hs : s.integer? = some k)
    (hk : 0 ≤ k ∧ k ≤ m) :
    BinaryOp.subtract.apply false (ofNat m) (.value (.scalar s)) = ofNat (m - k.toNat) := by
  obtain ⟨q, hq, -, ⟨n, rfl, hn⟩ | ⟨-, hlarge⟩⟩ := Quantity.ofScalar?_integer hs
  · have hresult : Quantity.integerResult? .subtract (Int64.ofNat m).toInt n.toInt
        = some (Int64.ofNat (m - k.toNat)) := by
      rw [Quantity.integerResult?, int64OfInt?_eq_some_iff, Int64.toInt_ofNat_of_lt (by omega),
        Int64.toInt_ofNat_of_lt hm]
      omega
    have hleft : Quantity.ofOutcome? (ofNat m) = some (.int (Int64.ofNat m)) := rfl
    have hright : Quantity.ofOutcome? (.value (.scalar s)) = some (.int n) := hq
    rw [BinaryOp.apply, arithmetic, hleft, hright]
    simp only [Quantity.arithmetic?, reduceCtorEq, or_self, false_and, if_false, hresult]
    rfl
  · omega

end Outcome

namespace BuiltinFunction

open Outcome

variable {text needle : String} {clock : Timestamp}

theorem indexArgument?_integer {s : Scalar} {k : Int} (hs : s.integer? = some k) (hk : 0 ≤ k)
    (hbound : k < 2 ^ 63) : indexArgument? (.value (.scalar s)) = some k.toNat := by
  have hindex := Scalar.index?_integer hs
  rw [if_pos ⟨hk, hbound⟩] at hindex
  exact hindex

theorem substringOf_outside {s : Scalar} {k : Int} (hs : s.integer? = some k)
    (hk : ¬(0 ≤ k ∧ k ≤ text.length)) (count : Option Outcome) :
    substringOf (.string text) (.value (.scalar s)) count = .undefined := by
  have hindex : indexArgument? (.value (.scalar s))
      = if 0 ≤ k ∧ k < 2 ^ 63 then some k.toNat else none := Scalar.index?_integer hs
  rw [substringOf, hindex]
  by_cases hrange : 0 ≤ k ∧ k < 2 ^ 63
  · rw [if_pos hrange]
    exact if_pos (by omega)
  · rw [if_neg hrange]
    rfl

theorem substringOf_from {s : Scalar} {k : Int} (htext : text.length < 2 ^ 63)
    (hs : s.integer? = some k) (hk : 0 ≤ k ∧ k ≤ text.length) :
    substringOf (.string text) (.value (.scalar s)) none
      = .string (String.ofList (text.toList.drop k.toNat)) := by
  rw [substringOf, indexArgument?_integer hs hk.1 (by omega)]
  exact if_neg (by omega)

theorem substringOf_count {s : Scalar} {k : Int} {n : Nat} (htext : text.length < 2 ^ 63)
    (hs : s.integer? = some k) (hk : 0 ≤ k ∧ k ≤ text.length) (hn : n < 2 ^ 63) :
    substringOf (.string text) (.value (.scalar s)) (some (.ofNat n))
      = if k.toNat + n ≤ text.length then
          .string (String.ofList ((text.toList.drop k.toNat).take n))
        else .undefined := by
  have hcount : indexArgument? (.ofNat n) = some n :=
    indexArgument?_integer (Scalar.integer?_ofNat hn) (Int.natCast_nonneg n) (by omega)
  have hlength : text.toList.length = text.length := String.length_toList
  rw [substringOf, indexArgument?_integer hs hk.1 (by omega)]
  simp only [Outcome.string, Outcome.string?, if_neg (show ¬text.length < k.toNat by omega), hcount,
    List.length_drop, hlength]
  by_cases hfits : k.toNat + n ≤ text.length
  · rw [if_pos hfits, if_pos (by omega)]
  · rw [if_neg hfits, if_neg (by omega)]

-- A piece is cut out of a text at just the positions where it stands.
theorem substringOf_eq_piece_iff {s : Scalar} {k : Int} (htext : text.length < 2 ^ 63)
    (hneedle : needle.length ≤ text.length) (hs : s.integer? = some k) :
    substringOf (.string text) (.value (.scalar s)) (some (lengthOf (.string needle)))
        = .string needle
      ↔ 0 ≤ k ∧ Text.OccursAt needle.toList text.toList k.toNat := by
  have hpiece : needle.toList.length = needle.length := String.length_toList
  have hwhole : text.toList.length = text.length := String.length_toList
  have hlength : lengthOf (.string needle) = .ofNat needle.length := rfl
  rw [hlength, Text.occursAt_iff_take, hpiece, hwhole]
  by_cases hk : 0 ≤ k ∧ k ≤ text.length
  · rw [substringOf_count htext hs hk (by omega)]
    split
    · next hfits =>
        rw [string_ofList_eq_iff]
        tauto
    · next hfits => exact iff_of_false nofun fun h => hfits h.2.1
  · rw [substringOf_outside hs hk]
    exact iff_of_false nofun fun h => hk ⟨h.1, by omega⟩

end BuiltinFunction

namespace Outcome

open BuiltinFunction

-- The piece is what is cut out of the text from a position on, by as many characters as it has.
def CutOutAt (clock : Timestamp) (text piece : String) (position : Scalar) : Prop :=
  substring.apply clock false
      [.string text, .value (.scalar position), length.apply clock false [.string piece]]
    = .string piece

-- What the functions on positions say of a text and a piece, each in terms of the others.
structure PositionsAgree (clock : Timestamp) (text piece : String) : Prop where
  absent : contains.apply clock false [.string text, .string piece] = bool false ↔
    indexOf.apply clock false [.string text, .string piece] = int (-1) ∧
      lastIndexOf.apply clock false [.string text, .string piece] = int (-1)
  found : contains.apply clock false [.string text, .string piece] ≠ bool false →
    ∃ first last : Int64,
      indexOf.apply clock false [.string text, .string piece] = int first ∧
      lastIndexOf.apply clock false [.string text, .string piece] = int last ∧
      (0 ≤ first ∧ first ≤ last) ∧
      (CutOutAt clock text piece (.int first) ∧ CutOutAt clock text piece (.int last)) ∧
      ∀ (position : Scalar) (k : Int), position.integer? = some k →
        CutOutAt clock text piece position → first.toInt ≤ k ∧ k ≤ last.toInt
  startsWith : startsWith.apply clock false [.string text, .string piece] = bool true ↔
    indexOf.apply clock false [.string text, .string piece] = int 0
  endsWith : endsWith.apply clock false [.string text, .string piece] = bool true ↔
    contains.apply clock false [.string text, .string piece] = bool true ∧
      lastIndexOf.apply clock false [.string text, .string piece]
        = BinaryOp.subtract.apply false (length.apply clock false [.string text])
            (length.apply clock false [.string piece])
  substring : ∀ (position : Scalar) (k : Int), position.integer? = some k →
    substring.apply clock false [.string text, .value (.scalar position)]
        = substring.apply clock false [.string text, .value (.scalar position),
            BinaryOp.subtract.apply false (length.apply clock false [.string text])
              (.value (.scalar position))] ∧
      (substring.apply clock false [.string text, .value (.scalar position)] = .undefined
        ↔ ¬(0 ≤ k ∧ k ≤ text.length))

variable {clock : Timestamp} {text piece : String}

theorem contains_eq (clock : Timestamp) (text piece : String) :
    contains.apply clock false [.string text, .string piece]
      = bool (Text.indexOf? piece.toList text.toList).isSome := rfl

theorem lt_of_occursAt {n : Nat} (htext : text.length < 2 ^ 63)
    (h : Text.OccursAt piece.toList text.toList n) : n < 2 ^ 63 := by
  have hlength : text.toList.length = text.length := String.length_toList
  have := h.1
  omega

theorem piece_length_le {n : Nat} (h : Text.OccursAt piece.toList text.toList n) :
    piece.length ≤ text.length := by
  have hlength : text.toList.length = text.length := String.length_toList
  have hpiece : piece.toList.length = piece.length := String.length_toList
  have := h.length_le
  omega

theorem position_eq_minusOne_iff {found : Option Nat} (h : ∀ n ∈ found, n < 2 ^ 63) :
    position found = int (-1) ↔ found = none := by
  cases found with
  | none => exact iff_of_true rfl rfl
  | some n => exact iff_of_false (ofNat_ne_minusOne (h n rfl)) nofun

theorem position_eq_ofNat_iff {found : Option Nat} {m : Nat} (h : ∀ n ∈ found, n < 2 ^ 63)
    (hm : m < 2 ^ 63) : position found = ofNat m ↔ found = some m := by
  cases found with
  | none => exact iff_of_false (fun hnone => ofNat_ne_minusOne hm hnone.symm) nofun
  | some n => rw [position, ofNat_inj (h n rfl) hm, Option.some.injEq]

-- A piece at the end of the text stands as far to the right as it can.
theorem endsWith_iff_lastIndexOf? : Text.endsWith text.toList piece.toList = true ↔
    piece.length ≤ text.length ∧
      Text.lastIndexOf? piece.toList text.toList = some (text.length - piece.length) := by
  have hlength : text.toList.length = text.length := String.length_toList
  have hpiece : piece.toList.length = piece.length := String.length_toList
  rw [Text.endsWith_iff_occursAt, Text.lastIndexOf?_eq_some_iff, hlength, hpiece]
  refine and_congr_right fun hshort => ⟨fun h => ⟨h, ?_⟩, fun h => h.1⟩
  intro m hm
  have := Text.OccursAt.length_le hm
  omega

section

variable (htext : text.length < 2 ^ 63)
include htext

theorem indexOf_lt : ∀ n ∈ Text.indexOf? piece.toList text.toList, n < 2 ^ 63 :=
  fun _ hn => lt_of_occursAt htext (Text.isLeast_of_indexOf? hn).1

theorem lastIndexOf_lt : ∀ n ∈ Text.lastIndexOf? piece.toList text.toList, n < 2 ^ 63 :=
  fun _ hn => lt_of_occursAt htext (Text.isGreatest_of_lastIndexOf? hn).1

theorem contains_eq_false_iff :
    contains.apply clock false [.string text, .string piece] = bool false ↔
      indexOf.apply clock false [.string text, .string piece] = int (-1) ∧
        lastIndexOf.apply clock false [.string text, .string piece] = int (-1) := by
  have hfirst := position_eq_minusOne_iff (@indexOf_lt text piece htext)
  have hlast := position_eq_minusOne_iff (@lastIndexOf_lt text piece htext)
  rw [contains_eq, bool_inj, Option.isSome_eq_false_iff, Option.isNone_iff_eq_none]
  refine Iff.trans ?_ (and_congr hfirst hlast).symm
  rw [Text.lastIndexOf?_eq_none_iff, and_self]

-- A position and its piece, seen from the text.
theorem cutOutAt_iff {s : Scalar} {k : Int} {n : Nat}
    (hoccurs : Text.OccursAt piece.toList text.toList n) (hs : s.integer? = some k) :
    CutOutAt clock text piece s ↔ 0 ≤ k ∧ Text.OccursAt piece.toList text.toList k.toNat :=
  substringOf_eq_piece_iff htext (piece_length_le hoccurs) hs

theorem positions_cut_out {m n : Nat} (hm : Text.indexOf? piece.toList text.toList = some m)
    (hn : Text.lastIndexOf? piece.toList text.toList = some n) :
    (0 ≤ Int64.ofNat m ∧ Int64.ofNat m ≤ Int64.ofNat n) ∧
      (CutOutAt clock text piece (.int (Int64.ofNat m)) ∧
        CutOutAt clock text piece (.int (Int64.ofNat n))) ∧
      ∀ (position : Scalar) (k : Int), position.integer? = some k →
        CutOutAt clock text piece position →
          (Int64.ofNat m).toInt ≤ k ∧ k ≤ (Int64.ofNat n).toInt := by
  obtain ⟨hoccurs, hleast⟩ := Text.isLeast_of_indexOf? hm
  obtain ⟨hoccursLast, hgreatest⟩ := Text.isGreatest_of_lastIndexOf? hn
  have hfirst : m < 2 ^ 63 := lt_of_occursAt htext hoccurs
  have hlast : n < 2 ^ 63 := lt_of_occursAt htext hoccursLast
  have hle : m ≤ n := hleast hoccursLast
  rw [Int64.le_iff_toInt_le, Int64.le_iff_toInt_le, Int64.toInt_ofNat_of_lt hfirst,
    Int64.toInt_ofNat_of_lt hlast, cutOutAt_iff htext hoccurs (Scalar.integer?_ofNat hfirst),
    cutOutAt_iff htext hoccurs (Scalar.integer?_ofNat hlast)]
  refine ⟨⟨Int.natCast_nonneg m, Int.ofNat_le.mpr hle⟩,
    ⟨⟨Int.natCast_nonneg m, hoccurs⟩, Int.natCast_nonneg n, hoccursLast⟩, ?_⟩
  intro position k hposition hcut
  obtain ⟨hk, hoccursAt⟩ := (cutOutAt_iff htext hoccurs hposition).mp hcut
  have hlow := hleast hoccursAt
  have hhigh := hgreatest hoccursAt
  omega

theorem startsWith_eq_true_iff :
    startsWith.apply clock false [.string text, .string piece] = bool true ↔
      indexOf.apply clock false [.string text, .string piece] = int 0 := by
  have hzero : indexOf.apply clock false [.string text, .string piece] = int 0 ↔
      Text.indexOf? piece.toList text.toList = some 0 :=
    position_eq_ofNat_iff (indexOf_lt htext) (by decide)
  rw [hzero, Text.indexOf?_eq_some_iff]
  refine bool_inj.trans (Text.startsWith_iff_occursAt.trans ?_)
  exact ⟨fun h => ⟨h, fun m _ => Nat.zero_le m⟩, fun h => h.1⟩

theorem endsWith_eq_true_iff :
    endsWith.apply clock false [.string text, .string piece] = bool true ↔
      contains.apply clock false [.string text, .string piece] = bool true ∧
        lastIndexOf.apply clock false [.string text, .string piece]
          = BinaryOp.subtract.apply false (length.apply clock false [.string text])
              (length.apply clock false [.string piece]) := by
  have hdifference (hshort : piece.length ≤ text.length) :
      BinaryOp.subtract.apply false (length.apply clock false [.string text])
        (length.apply clock false [.string piece]) = ofNat (text.length - piece.length) :=
    subtract_ofNat htext (Scalar.integer?_ofNat (by omega)) (by omega)
  have hposition : lastIndexOf.apply clock false [.string text, .string piece]
      = ofNat (text.length - piece.length) ↔ Text.lastIndexOf? piece.toList text.toList
        = some (text.length - piece.length) :=
    position_eq_ofNat_iff (lastIndexOf_lt htext) (by omega)
  refine bool_inj.trans (endsWith_iff_lastIndexOf?.trans ?_)
  rw [contains_eq, bool_inj, ← Option.ne_none_iff_isSome, ne_eq, ← Text.lastIndexOf?_eq_none_iff]
  constructor
  · rintro ⟨hshort, hlast⟩
    rw [hdifference hshort, hposition, hlast]
    exact ⟨nofun, rfl⟩
  · rintro ⟨hsome, hlast⟩
    obtain ⟨n, hn⟩ := Option.ne_none_iff_exists'.mp hsome
    have hshort := piece_length_le (Text.isGreatest_of_lastIndexOf? hn).1
    rw [hdifference hshort, hposition] at hlast
    exact ⟨hshort, hlast⟩

-- What is left of a text from a position on is as long as the text without what lies before it.
theorem substring_rest {position : Scalar} {k : Int} (hposition : position.integer? = some k) :
    substring.apply clock false [.string text, .value (.scalar position)]
        = substring.apply clock false [.string text, .value (.scalar position),
            BinaryOp.subtract.apply false (length.apply clock false [.string text])
              (.value (.scalar position))] ∧
      (substring.apply clock false [.string text, .value (.scalar position)] = .undefined
        ↔ ¬(0 ≤ k ∧ k ≤ text.length)) := by
  by_cases hk : 0 ≤ k ∧ k ≤ text.length
  · have hlength : text.toList.length = text.length := String.length_toList
    have hcount : BinaryOp.subtract.apply false (length.apply clock false [.string text])
        (.value (.scalar position)) = ofNat (text.length - k.toNat) :=
      subtract_ofNat htext hposition hk
    have hall : (text.toList.drop k.toNat).take (text.length - k.toNat)
        = text.toList.drop k.toNat := by
      rw [← hlength, ← List.length_drop, List.take_length]
    have hrest := substringOf_from htext hposition hk
    have htake := substringOf_count (n := text.length - k.toNat) htext hposition hk (by omega)
    rw [if_pos (by omega), hall] at htake
    rw [hcount]
    exact ⟨hrest.trans htake.symm, iff_of_false (fun h => nomatch hrest.symm.trans h) (not_not.mpr hk)⟩
  · have houtside := substringOf_outside hposition hk
    exact ⟨(houtside none).trans (houtside (some _)).symm, iff_of_true (houtside none) hk⟩

end

theorem positionsAgree (clock : Timestamp) (text piece : String) (htext : text.length < 2 ^ 63) :
    PositionsAgree clock text piece where
  absent := contains_eq_false_iff htext
  found := by
    intro hcontains
    rw [contains_eq, ne_eq, bool_inj, Option.isSome_eq_false_iff, Option.isNone_iff_eq_none]
      at hcontains
    obtain ⟨m, hm⟩ := Option.ne_none_iff_exists'.mp hcontains
    rw [← Text.lastIndexOf?_eq_none_iff] at hcontains
    obtain ⟨n, hn⟩ := Option.ne_none_iff_exists'.mp hcontains
    exact ⟨_, _, congrArg position hm, congrArg position hn, positions_cut_out htext hm hn⟩
  startsWith := startsWith_eq_true_iff htext
  endsWith := endsWith_eq_true_iff htext
  substring := fun _ _ => substring_rest htext

-- `żóż` stands twice in `żóżóż`, once over the end of the other. Every character has two bytes.

private def twofold : String := String.ofList ['\u017C', '\u00F3', '\u017C', '\u00F3', '\u017C']

private def onefold : String := String.ofList ['\u017C', '\u00F3', '\u017C']

theorem positionsAgree_overlapping :
    twofold.length < 2 ^ 63 ∧ PositionsAgree midday twofold onefold ∧
      indexOf.apply midday false [.string twofold, .string onefold] = int 0 ∧
      lastIndexOf.apply midday false [.string twofold, .string onefold] = int 2 := by
  have hlength : twofold.length < 2 ^ 63 := by
    rw [twofold, String.length_ofList]
    decide
  have hfirst : Text.indexOf? onefold.toList twofold.toList = some 0 := by
    rw [onefold, twofold, String.toList_ofList, String.toList_ofList]
    decide
  have hlast : Text.lastIndexOf? onefold.toList twofold.toList = some 2 := by
    rw [onefold, twofold, String.toList_ofList, String.toList_ofList]
    decide
  exact ⟨hlength, positionsAgree midday twofold onefold hlength, congrArg position hfirst,
    congrArg position hlast⟩

end Outcome

end EventText
