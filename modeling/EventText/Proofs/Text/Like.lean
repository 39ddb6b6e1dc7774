import EventText.Text.Search
import Mathlib.Data.List.Forall2
import Mathlib.Data.List.Induction

namespace EventText.Text

namespace Like

-- What one character of a pattern takes out of a text.
def Takes (p : Char) (piece : List Char) : Prop :=
  if p = '%' then True else if p = '_' then piece.length = 1 else piece = [p]

-- A text that falls into consecutive pieces, one for each character of the pattern.
def Matches (text pattern : List Char) : Prop :=
  ∃ pieces : List (List Char), text = pieces.flatten ∧ List.Forall₂ Takes pattern pieces

theorem takes_anyRun (piece : List Char) : Takes anyRun piece := by
  simp [Takes, anyRun]

-- Every other character of a pattern takes a single character, and there is only one way to
-- take the last one of a text.
theorem takes_iff_of_ne {p : Char} {piece : List Char} (hne : p ≠ anyRun) :
    Takes p piece ↔ ∃ c, piece = [c] ∧ (p = anyOne ∨ p = c) := by
  have hpercent : ¬ p = '%' := hne
  by_cases hone : p = anyOne
  · subst hone
    simp [Takes, anyOne, List.length_eq_one_iff]
  · have hunderscore : ¬ p = '_' := hone
    simp only [Takes, if_neg hpercent, if_neg hunderscore, hone, false_or]
    exact ⟨fun h => ⟨p, h, rfl⟩, fun ⟨_, hpiece, hc⟩ => hc ▸ hpiece⟩

theorem matches_nil {text : List Char} : Matches text [] ↔ text = [] := by
  constructor
  · rintro ⟨pieces, rfl, hpieces⟩
    cases hpieces
    rfl
  · rintro rfl
    exact ⟨[], rfl, .nil⟩

theorem matches_append_singleton {text pattern : List Char} {p : Char} :
    Matches text (pattern ++ [p]) ↔
      ∃ front piece, text = front ++ piece ∧ Matches front pattern ∧ Takes p piece := by
  constructor
  · rintro ⟨pieces, rfl, hpieces⟩
    have hfront := List.forall₂_take pattern.length hpieces
    have hlast := List.forall₂_drop pattern.length hpieces
    rw [List.take_left] at hfront
    rw [List.drop_left] at hlast
    obtain ⟨piece, rest, hpiece, hrest, hdrop⟩ := List.forall₂_cons_left_iff.mp hlast
    obtain rfl := List.forall₂_nil_left_iff.mp hrest
    refine ⟨_, piece, ?_, ⟨_, rfl, hfront⟩, hpiece⟩
    rw [← List.take_append_drop pattern.length pieces, hdrop, List.flatten_append,
      List.flatten_singleton, ← hdrop, List.take_append_drop]
  · rintro ⟨_, piece, rfl, ⟨pieces, rfl, hpieces⟩, hpiece⟩
    exact ⟨pieces ++ [piece], by simp, List.rel_append hpieces (.cons hpiece .nil)⟩

-- A row says of the front of each length whether it matches the pattern.
def Describes (text : List Char) (row : List Bool) (pattern : List Char) : Prop :=
  row.length = text.length + 1 ∧
    ∀ n ≤ text.length, row[n]? = some true ↔ Matches (text.take n) pattern

theorem describes_start (text : List Char) : Describes text (start text) [] := by
  refine ⟨by simp [start], fun n hn => ?_⟩
  rw [matches_nil]
  cases n with
  | zero => simp [start]
  | succ n =>
      have hne : text ≠ [] := List.ne_nil_of_length_pos (by omega)
      simp [start, hne, List.getElem?_replicate]

theorem length_spread (seen : Bool) (row : List Bool) : (spread seen row).length = row.length := by
  induction row generalizing seen with
  | nil => rfl
  | cons reached rest ih => simp [spread, ih]

theorem getElem?_spread {seen : Bool} {row : List Bool} {n : Nat} (hn : n < row.length) :
    (spread seen row)[n]? = some true ↔ seen = true ∨ ∃ m ≤ n, row[m]? = some true := by
  induction row generalizing seen n with
  | nil => simp at hn
  | cons reached rest ih =>
      cases n with
      | zero => simp [spread]
      | succ n =>
          have hrest : n < rest.length := by simpa using hn
          simp only [spread, List.getElem?_cons_succ, ih hrest, Bool.or_eq_true, or_assoc]
          refine or_congr_right ⟨?_, ?_⟩
          · rintro (rfl | ⟨m, hm, hrow⟩)
            · exact ⟨0, Nat.zero_le _, rfl⟩
            · exact ⟨m + 1, Nat.succ_le_succ hm, hrow⟩
          · rintro ⟨m, hm, hrow⟩
            cases m with
            | zero => exact .inl (by simpa using hrow)
            | succ m => exact .inr ⟨m, Nat.le_of_succ_le_succ hm, hrow⟩

theorem getElem?_shift_succ {p : Char} {text : List Char} {row : List Bool} {n : Nat} :
    (shift p text row)[n + 1]? = some true ↔
      row[n]? = some true ∧ ∃ c, text[n]? = some c ∧ (p = anyOne ∨ p = c) := by
  simp only [shift, List.getElem?_cons_succ, List.getElem?_zipWith]
  cases row[n]? <;> cases text[n]? <;> simp

theorem matches_append_anyRun {text pattern : List Char} :
    Matches text (pattern ++ [anyRun]) ↔ ∃ n ≤ text.length, Matches (text.take n) pattern := by
  rw [matches_append_singleton]
  constructor
  · rintro ⟨front, piece, rfl, hfront, -⟩
    exact ⟨front.length, by simp, by rwa [List.take_left]⟩
  · rintro ⟨n, -, hfront⟩
    exact ⟨_, _, (List.take_append_drop n text).symm, hfront, takes_anyRun _⟩

theorem matches_append_of_ne {text pattern : List Char} {p : Char} (hne : p ≠ anyRun) :
    Matches text (pattern ++ [p]) ↔
      ∃ front c, text = front ++ [c] ∧ Matches front pattern ∧ (p = anyOne ∨ p = c) := by
  rw [matches_append_singleton]
  constructor
  · rintro ⟨front, piece, rfl, hfront, hpiece⟩
    obtain ⟨c, rfl, hc⟩ := (takes_iff_of_ne hne).mp hpiece
    exact ⟨front, c, rfl, hfront, hc⟩
  · rintro ⟨front, c, rfl, hfront, hc⟩
    exact ⟨front, [c], rfl, hfront, (takes_iff_of_ne hne).mpr ⟨c, rfl, hc⟩⟩

-- A row for the pattern read so far becomes one for the pattern with a character more.
theorem Describes.step {text : List Char} {row : List Bool} {pattern : List Char}
    (h : Describes text row pattern) (p : Char) :
    Describes text (step text row p) (pattern ++ [p]) := by
  obtain ⟨hlength, hrow⟩ := h
  by_cases hp : p = anyRun
  · subst hp
    rw [Like.step, if_pos rfl]
    refine ⟨by rw [length_spread, hlength], fun n hn => ?_⟩
    rw [getElem?_spread (by omega), matches_append_anyRun, List.length_take_of_le hn]
    simp only [Bool.false_eq_true, false_or]
    refine exists_congr fun m => and_congr_right fun hm => ?_
    rw [hrow m (Nat.le_trans hm hn), List.take_take, Nat.min_eq_left hm]
  · rw [Like.step, if_neg hp]
    refine ⟨by simp [shift, hlength], fun n hn => ?_⟩
    rw [matches_append_of_ne hp]
    cases n with
    | zero => simp [shift]
    | succ n =>
        have hlast : n < text.length := hn
        rw [getElem?_shift_succ, hrow n (Nat.le_of_lt hlast),
          List.take_succ_eq_append_getElem hlast, List.getElem?_eq_getElem hlast]
        constructor
        · rintro ⟨hfront, c, hc, hpc⟩
          exact ⟨_, c, by rw [Option.some.inj hc], hfront, hpc⟩
        · rintro ⟨front, c, htext, hfront, hpc⟩
          obtain ⟨rfl, hc⟩ := List.append_inj' htext rfl
          exact ⟨hfront, c, congrArg some (List.singleton_inj.mp hc), hpc⟩

theorem describes_rows (text pattern : List Char) :
    Describes text (pattern.foldl (step text) (start text)) pattern := by
  induction pattern using List.reverseRecOn with
  | nil => exact describes_start text
  | append_singleton pattern p ih =>
      rw [List.foldl_append]
      exact ih.step p

theorem Describes.whole {text : List Char} {row : List Bool} {pattern : List Char}
    (h : Describes text row pattern) : row.getLast?.getD false = true ↔ Matches text pattern := by
  have hlast := h.2 text.length (Nat.le_refl _)
  rw [List.take_length] at hlast
  rw [List.getLast?_eq_getElem?, h.1, Nat.add_sub_cancel, ← hlast]
  cases row[text.length]? <;> simp

end Like

-- The rows find out whether a text falls into pieces as the pattern asks for.
theorem like_iff_pieces (text pattern : List Char) :
    like text pattern = true ↔
      ∃ pieces : List (List Char), text = pieces.flatten ∧
        List.Forall₂ Like.Takes pattern pieces :=
  (Like.describes_rows text pattern).whole

end EventText.Text
