import EventText.Text.Search
import Mathlib.Order.Bounds.Basic

namespace EventText.Text

-- What the searches for a piece of a text find.

theorem startsWith_iff {text piece : List Char} :
    startsWith text piece = true ↔ ∃ back, text = piece ++ back := by
  rw [startsWith, List.isPrefixOf_iff_prefix]
  exact exists_congr fun back => eq_comm

theorem endsWith_iff {text piece : List Char} :
    endsWith text piece = true ↔ ∃ front, text = front ++ piece := by
  rw [endsWith, List.isSuffixOf_iff_suffix]
  exact exists_congr fun front => eq_comm

theorem split_of_indexOf? {piece text : List Char} {n : Nat} (h : indexOf? piece text = some n) :
    ∃ front back, text = front ++ piece ++ back ∧ front.length = n := by
  induction text generalizing n with
  | nil =>
      simp only [indexOf?, List.isEmpty_iff, Option.ite_none_right_eq_some, Option.some.injEq] at h
      obtain ⟨rfl, rfl⟩ := h
      exact ⟨[], [], rfl, rfl⟩
  | cons c rest ih =>
      rw [indexOf?] at h
      split at h
      · next hstarts =>
          obtain ⟨back, htext⟩ := startsWith_iff.mp hstarts
          exact ⟨[], back, htext, Option.some.inj h⟩
      · obtain ⟨m, hm, rfl⟩ := Option.map_eq_some_iff.mp h
        obtain ⟨front, back, rfl, rfl⟩ := ih hm
        exact ⟨c :: front, back, rfl, rfl⟩

theorem isSome_indexOf? (front piece back : List Char) :
    (indexOf? piece (front ++ piece ++ back)).isSome = true := by
  induction front with
  | nil =>
      have hstarts : piece.isPrefixOf (piece ++ back) = true := startsWith_iff.mpr ⟨back, rfl⟩
      cases htext : piece ++ back with
      | nil =>
          obtain rfl := (List.append_eq_nil_iff.mp htext).1
          simp [htext, indexOf?]
      | cons c rest =>
          rw [htext] at hstarts
          rw [List.nil_append, htext, indexOf?, if_pos hstarts]
          rfl
  | cons c front ih =>
      rw [List.cons_append, List.cons_append, indexOf?]
      split
      · rfl
      · rwa [Option.isSome_map]

theorem contains_iff {text piece : List Char} :
    contains text piece = true ↔ ∃ front back, text = front ++ piece ++ back := by
  constructor
  · intro h
    obtain ⟨n, hn⟩ := Option.isSome_iff_exists.mp h
    obtain ⟨front, back, htext, -⟩ := split_of_indexOf? hn
    exact ⟨front, back, htext⟩
  · rintro ⟨front, back, rfl⟩
    exact isSome_indexOf? front piece back

-- The positions of a text from which a piece of it stands. Searches find the first and the last of
-- them.

variable {piece text : List Char} {n : Nat}

def OccursAt (piece text : List Char) (n : Nat) : Prop :=
  n ≤ text.length ∧ piece <+: text.drop n

theorem occursAt_zero : OccursAt piece text 0 ↔ piece <+: text := by
  simp [OccursAt]

theorem occursAt_nil : OccursAt piece [] n ↔ n = 0 ∧ piece = [] := by
  simp [OccursAt]

theorem occursAt_succ {c : Char} {rest : List Char} :
    OccursAt piece (c :: rest) (n + 1) ↔ OccursAt piece rest n := by
  simp [OccursAt]

theorem OccursAt.length_le (h : OccursAt piece text n) : n + piece.length ≤ text.length := by
  have hlength := h.2.length_le
  have hstart := h.1
  rw [List.length_drop] at hlength
  omega

-- A piece is found again by cutting as many characters as it has.
theorem occursAt_iff_take :
    OccursAt piece text n ↔ n + piece.length ≤ text.length ∧
      (text.drop n).take piece.length = piece := by
  constructor
  · intro h
    exact ⟨h.length_le, (List.prefix_iff_eq_take.mp h.2).symm⟩
  · rintro ⟨hlength, htake⟩
    exact ⟨by omega, List.prefix_iff_eq_take.mpr htake.symm⟩

theorem startsWith_iff_occursAt : startsWith text piece = true ↔ OccursAt piece text 0 := by
  rw [startsWith, List.isPrefixOf_iff_prefix, occursAt_zero]

theorem endsWith_iff_occursAt :
    endsWith text piece = true ↔
      piece.length ≤ text.length ∧ OccursAt piece text (text.length - piece.length) := by
  rw [endsWith, List.isSuffixOf_iff_suffix]
  constructor
  · intro h
    have hlength := h.length_le
    refine ⟨hlength, occursAt_iff_take.mpr ⟨by omega, ?_⟩⟩
    rw [← List.suffix_iff_eq_drop.mp h, List.take_length]
  · rintro ⟨hlength, hoccurs⟩
    have hwhole : (text.drop (text.length - piece.length)).length = piece.length := by
      rw [List.length_drop]
      omega
    rw [hoccurs.2.eq_of_length hwhole.symm]
    exact List.drop_suffix _ _

-- The search for the first position goes from the left to the right, the one for the last position
-- prefers what it finds in the rest of the text.

theorem not_occursAt_of_indexOf? (h : indexOf? piece text = none) (n : Nat) :
    ¬OccursAt piece text n := by
  induction text generalizing n with
  | nil =>
      rw [occursAt_nil]
      rintro ⟨-, rfl⟩
      cases h
  | cons c rest ih =>
      rw [indexOf?] at h
      split at h
      · cases h
      · next hstart =>
          cases n with
          | zero => rwa [occursAt_zero, ← List.isPrefixOf_iff_prefix]
          | succ n =>
              rw [occursAt_succ]
              exact ih (Option.map_eq_none_iff.mp h) n

theorem isLeast_of_indexOf? (h : indexOf? piece text = some n) :
    IsLeast {m | OccursAt piece text m} n := by
  induction text generalizing n with
  | nil =>
      simp only [indexOf?, List.isEmpty_iff, Option.ite_none_right_eq_some, Option.some.injEq] at h
      obtain ⟨rfl, rfl⟩ := h
      exact ⟨occursAt_nil.mpr ⟨rfl, rfl⟩, fun m _ => Nat.zero_le m⟩
  | cons c rest ih =>
      rw [indexOf?] at h
      split at h
      · next hstart =>
          obtain rfl := Option.some.inj h
          exact ⟨occursAt_zero.mpr (List.isPrefixOf_iff_prefix.mp hstart), fun m _ => Nat.zero_le m⟩
      · next hstart =>
          obtain ⟨k, hk, rfl⟩ := Option.map_eq_some_iff.mp h
          obtain ⟨hoccurs, hleast⟩ := ih hk
          refine ⟨occursAt_succ.mpr hoccurs, ?_⟩
          rintro (_ | m) hm
          · exact absurd (List.isPrefixOf_iff_prefix.mpr (occursAt_zero.mp hm)) hstart
          · exact Nat.succ_le_succ (hleast (occursAt_succ.mp hm))

theorem not_occursAt_of_lastIndexOf? (h : lastIndexOf? piece text = none) (n : Nat) :
    ¬OccursAt piece text n := by
  induction text generalizing n with
  | nil =>
      rw [occursAt_nil]
      rintro ⟨-, rfl⟩
      cases h
  | cons c rest ih =>
      rw [lastIndexOf?] at h
      split at h
      · cases h
      · next hrest =>
          split at h
          · cases h
          · next hstart =>
              cases n with
              | zero => rwa [occursAt_zero, ← List.isPrefixOf_iff_prefix]
              | succ n =>
                  rw [occursAt_succ]
                  exact ih hrest n

theorem isGreatest_of_lastIndexOf? (h : lastIndexOf? piece text = some n) :
    IsGreatest {m | OccursAt piece text m} n := by
  induction text generalizing n with
  | nil =>
      simp only [lastIndexOf?, List.isEmpty_iff, Option.ite_none_right_eq_some,
        Option.some.injEq] at h
      obtain ⟨rfl, rfl⟩ := h
      exact ⟨occursAt_nil.mpr ⟨rfl, rfl⟩, fun m hm => (occursAt_nil.mp hm).1.le⟩
  | cons c rest ih =>
      rw [lastIndexOf?] at h
      split at h
      · next k hk =>
          obtain rfl := Option.some.inj h
          obtain ⟨hoccurs, hgreatest⟩ := ih hk
          refine ⟨occursAt_succ.mpr hoccurs, ?_⟩
          rintro (_ | m) hm
          · exact Nat.zero_le _
          · exact Nat.succ_le_succ (hgreatest (occursAt_succ.mp hm))
      · next hrest =>
          split at h
          · next hstart =>
              obtain rfl := Option.some.inj h
              refine ⟨occursAt_zero.mpr (List.isPrefixOf_iff_prefix.mp hstart), ?_⟩
              rintro (_ | m) hm
              · exact Nat.le_refl 0
              · exact absurd (occursAt_succ.mp hm) (not_occursAt_of_lastIndexOf? hrest m)
          · cases h

theorem indexOf?_eq_some_iff :
    indexOf? piece text = some n ↔ IsLeast {m | OccursAt piece text m} n := by
  refine ⟨isLeast_of_indexOf?, fun h => ?_⟩
  cases hfound : indexOf? piece text with
  | none => exact absurd h.1 (not_occursAt_of_indexOf? hfound n)
  | some m => rw [(isLeast_of_indexOf? hfound).unique h]

theorem lastIndexOf?_eq_some_iff :
    lastIndexOf? piece text = some n ↔ IsGreatest {m | OccursAt piece text m} n := by
  refine ⟨isGreatest_of_lastIndexOf?, fun h => ?_⟩
  cases hfound : lastIndexOf? piece text with
  | none => exact absurd h.1 (not_occursAt_of_lastIndexOf? hfound n)
  | some m => rw [(isGreatest_of_lastIndexOf? hfound).unique h]

-- Both searches find something, or neither does.
theorem lastIndexOf?_eq_none_iff : lastIndexOf? piece text = none ↔ indexOf? piece text = none := by
  constructor
  · intro h
    cases hfirst : indexOf? piece text with
    | none => rfl
    | some m =>
        exact absurd (isLeast_of_indexOf? hfirst).1 (not_occursAt_of_lastIndexOf? h m)
  · intro h
    cases hlast : lastIndexOf? piece text with
    | none => rfl
    | some m =>
        exact absurd (isGreatest_of_lastIndexOf? hlast).1 (not_occursAt_of_indexOf? h m)

end EventText.Text
