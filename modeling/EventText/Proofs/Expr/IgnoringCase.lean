import EventText.Proofs.Expr.Evaluation
import EventText.Proofs.Text.LowerCase
import EventText.Proofs.Value.Symmetry

namespace EventText

-- What tests find when they ignore case, next to what they find when they do not.

theorem Scalar.equal_ignoringCase {a b : Scalar} (h : a.equal false b = true) :
    a.equal true b = true := by
  cases a with
  | string s =>
      cases b with
      | string t =>
          obtain rfl : s = t := by simpa [Scalar.equal] using h
          simp [Scalar.equal]
      | _ => exact h
  | _ => cases b <;> exact h

namespace Value

theorem equalItems_ignoringCase {left right : List Value}
    (hitems : ∀ a ∈ left, ∀ b : Value, a.equal false b = true → a.equal true b = true)
    (h : equalItems false left right = true) : equalItems true left right = true := by
  induction left generalizing right with
  | nil =>
      cases right with
      | nil => rw [equalItems]
      | cons b right => simp [equalItems] at h
  | cons a left ih =>
      cases right with
      | nil => simp [equalItems] at h
      | cons b right =>
          rw [equalItems, Bool.and_eq_true] at h ⊢
          exact ⟨hitems a List.mem_cons_self b h.1,
            ih (fun other hother => hitems other (List.mem_cons_of_mem _ hother)) h.2⟩

theorem equal_ignoringCase {v w : Value} (h : v.equal false w = true) : v.equal true w = true := by
  induction v using childInduction generalizing w with
  | step v ih =>
      cases v with
      | scalar a =>
          cases w with
          | scalar b =>
              rw [equal] at h ⊢
              exact Scalar.equal_ignoringCase h
          | _ => simp [equal] at h
      | sequence items =>
          cases w with
          | sequence others =>
              rw [equal] at h ⊢
              exact equalItems_ignoringCase (fun a ha b => ih a ha) h
          | _ => simp [equal] at h
      | record members tag =>
          cases w with
          | record others otherTag =>
              simp only [equal, Bool.and_eq_true, membersWithin_iff] at h ⊢
              refine ⟨h.1, fun member hmember => ?_⟩
              obtain ⟨other, hother, hequal⟩ := h.2 member hmember
              exact ⟨other, hother, ih _ (List.mem_map_of_mem hmember) hequal⟩
          | _ => simp [equal] at h
      | dictionary entries =>
          cases w with
          | dictionary others =>
              simp only [equal, Bool.and_eq_true, entriesWithin_iff] at h ⊢
              refine ⟨h.1, fun entry hentry => ?_⟩
              obtain ⟨other, hother, hkey, hequal⟩ := h.2 entry hentry
              exact ⟨other, hother, Scalar.equal_ignoringCase hkey,
                ih _ (List.mem_map_of_mem hentry) hequal⟩
          | _ => simp [equal] at h

end Value

namespace Outcome

theorem equal_ignoringCase {a b : Outcome} (h : a.equal false b = bool true) :
    a.equal true b = bool true := by
  cases a <;> cases b <;> try exact h
  next v w => exact bool_inj.mpr (Value.equal_ignoringCase (bool_inj.mp h))

theorem isIn_ignoringCase {item collection : Outcome} (h : item.isIn false collection = bool true) :
    item.isIn true collection = bool true := by
  cases collection with
  | value v =>
      cases v with
      | sequence items =>
          cases item with
          | value w =>
              have hany := bool_inj.mp h
              rw [List.any_eq_true] at hany
              obtain ⟨member, hmember, hequal⟩ := hany
              exact bool_inj.mpr
                (List.any_eq_true.mpr ⟨member, hmember, Value.equal_ignoringCase hequal⟩)
          | _ => exact h
      | _ => cases item <;> exact h
  | _ => cases item <;> exact h

-- Both outcomes are texts, and the condition holds of them.
def OnTexts (condition : List Char → List Char → Prop) (a b : Outcome) : Prop :=
  ∃ s t : String, a = .string s ∧ b = .string t ∧ condition s.toList t.toList

theorem eq_string_of_string? {o : Outcome} {s : String} (h : o.string? = some s) :
    o = .string s := by
  unfold string? at h
  split at h
  · rw [← Option.some.inj h]
    rfl
  · cases h

theorem onTexts_iff {condition : List Char → List Char → Prop} {s t : String} :
    OnTexts condition (.string s) (.string t) ↔ condition s.toList t.toList := by
  constructor
  · rintro ⟨s', t', hs, ht, h⟩
    cases hs
    cases ht
    exact h
  · intro h
    exact ⟨s, t, rfl, rfl, h⟩

theorem texts_of_onTexts {ignoreCase : Bool} {a b : Outcome} {v : Value}
    {result : List Char → List Char → Outcome}
    (h : BuiltinFunction.onTexts ignoreCase a b result = .value v) :
    ∃ s t : String, a = .string s ∧ b = .string t := by
  unfold BuiltinFunction.onTexts at h
  split at h
  · next s t hs ht => exact ⟨s, t, eq_string_of_string? hs, eq_string_of_string? ht⟩
  · cases h

-- What is true of two operands stays true when case is ignored, unless a capital sigma ends a word
-- in only one of two matching places, or an underscore takes a dotted capital I. Positions are
-- those of the text itself if it has no dotted capital I.
structure WidensIgnoringCase (clock : Timestamp) (a b : Outcome) : Prop where
  equal : BinaryOp.equal.apply false a b = bool true → BinaryOp.equal.apply true a b = bool true
  isIn : BinaryOp.isIn.apply false a b = bool true → BinaryOp.isIn.apply true a b = bool true
  like : BinaryOp.like.apply false a b = bool true → OnTexts Text.Like.MatchesAlike a b →
    BinaryOp.like.apply true a b = bool true
  contains : BuiltinFunction.contains.apply clock false [a, b] = bool true →
    OnTexts Text.OccursAlike a b → BuiltinFunction.contains.apply clock true [a, b] = bool true
  startsWith : BuiltinFunction.startsWith.apply clock false [a, b] = bool true →
    (BuiltinFunction.startsWith.apply clock true [a, b] = bool true
      ↔ OnTexts Text.StartsAlike a b)
  endsWith : BuiltinFunction.endsWith.apply clock false [a, b] = bool true →
    (BuiltinFunction.endsWith.apply clock true [a, b] = bool true ↔ OnTexts Text.EndsAlike a b)
  indexOf : ∀ i : Int64, BuiltinFunction.indexOf.apply clock true [a, b] = int i → 0 ≤ i →
    OnTexts (fun text piece => '\u0130' ∉ text →
      ∃ n, i = Int64.ofNat n ∧ Text.StandsAt text piece n) a b

theorem position_eq_int {found : Option Nat} {i : Int64}
    (h : BuiltinFunction.position found = int i) (hi : 0 ≤ i) :
    ∃ n, found = some n ∧ i = Int64.ofNat n := by
  cases found with
  | none =>
      have hminus : (-1 : Int64) = i := by simpa [BuiltinFunction.position, int] using h
      rw [← hminus] at hi
      exact absurd hi (by decide)
  | some n => exact ⟨n, rfl, by simpa [BuiltinFunction.position, ofNat, int] using h.symm⟩

theorem widensIgnoringCase (clock : Timestamp) (a b : Outcome) : WidensIgnoringCase clock a b where
  equal := equal_ignoringCase
  isIn := isIn_ignoringCase
  like := by
    rintro - ⟨s, t, rfl, rfl, halike⟩
    exact bool_inj.mpr halike.lower
  contains := by
    rintro - ⟨s, t, rfl, rfl, halike⟩
    exact bool_inj.mpr halike.lower
  startsWith := by
    intro h
    rw [BuiltinFunction.apply] at h
    obtain ⟨s, t, rfl, rfl⟩ := texts_of_onTexts h
    rw [onTexts_iff, ← Text.startsWith_lower_iff (bool_inj.mp h)]
    exact bool_inj
  endsWith := by
    intro h
    rw [BuiltinFunction.apply] at h
    obtain ⟨s, t, rfl, rfl⟩ := texts_of_onTexts h
    rw [onTexts_iff, ← Text.endsWith_lower_iff (bool_inj.mp h)]
    exact bool_inj
  indexOf := by
    intro i h hi
    rw [BuiltinFunction.apply] at h
    obtain ⟨s, t, rfl, rfl⟩ := texts_of_onTexts h
    obtain ⟨n, hn, hvalue⟩ := position_eq_int h hi
    exact onTexts_iff.mpr fun hdot => ⟨n, hvalue, Text.standsAt_of_indexOf?_lower hdot hn⟩

private def word (chars : List Char) : Outcome := .string (String.ofList chars)

private theorem onTexts_word (ignoreCase : Bool) (s t : List Char)
    (result : List Char → List Char → Outcome) :
    BuiltinFunction.onTexts ignoreCase (word s) (word t) result
      = if ignoreCase then result (Text.lower s) (Text.lower t) else result s t := by
  simp only [BuiltinFunction.onTexts, word, string, string?, String.toList_ofList]

private theorem like_word (ignoreCase : Bool) (s t : List Char) :
    Outcome.like ignoreCase (word s) (word t)
      = if ignoreCase then bool (Text.like (Text.lower s) (Text.lower t))
        else bool (Text.like s t) := by
  simp only [Outcome.like, word, string, string?, String.toList_ofList]

-- `ΟΔΟΣ ΑΒ` starts with `ΟΔΟΣ` in lower case too, as the sigma ends a word of both.

private def street : List Char := ['\u039F', '\u0394', '\u039F', '\u03A3']

private def address : List Char := street ++ [' ', '\u0391', '\u0392']

private theorem startsAlike_street : Text.StartsAlike address street :=
  ⟨_, rfl, Text.lowerWithin_eq_lower_iff.mp (by decide)⟩

theorem widensIgnoringCase_street :
    BuiltinFunction.startsWith.apply midday false [word address, word street] = bool true ∧
      BuiltinFunction.startsWith.apply midday true [word address, word street] = bool true := by
  have hplain :
      BuiltinFunction.startsWith.apply midday false [word address, word street] = bool true := by
    rw [BuiltinFunction.apply, onTexts_word]
    exact bool_inj.mpr (Text.startsWith_iff.mpr ⟨_, rfl⟩)
  refine ⟨hplain, ((widensIgnoringCase _ _ _).startsWith hplain).mpr (onTexts_iff.mpr ?_)⟩
  simpa only [String.toList_ofList] using startsAlike_street

-- At the end of `ΑΣ` the sigma takes its final form, in `ΑΣΒ` it does not. A lower case of two
-- characters is no single character, and it moves what stands behind it.

private def final : List Char := ['\u0391', '\u03A3']

private def medial : List Char := ['\u0391', '\u03A3', '\u0392']

private def dotted : List Char := ['\u0130', 'x']

theorem narrows_ignoringCase :
    (BuiltinFunction.contains.apply midday false [word medial, word final] = bool true ∧
        BuiltinFunction.contains.apply midday true [word medial, word final] = bool false) ∧
      (BuiltinFunction.startsWith.apply midday false [word medial, word final] = bool true ∧
        BuiltinFunction.startsWith.apply midday true [word medial, word final] = bool false) ∧
      (BuiltinFunction.endsWith.apply midday false [word final, word ['\u03A3']] = bool true ∧
        BuiltinFunction.endsWith.apply midday true [word final, word ['\u03A3']] = bool false) ∧
      (BinaryOp.like.apply false (word ['\u0130']) (word ['_']) = bool true ∧
        BinaryOp.like.apply true (word ['\u0130']) (word ['_']) = bool false) ∧
      BuiltinFunction.indexOf.apply midday true [word dotted, word ['x']] = int 2 ∧
        BuiltinFunction.length.apply midday false [word dotted] = int 2 := by
  have hindex : Text.indexOf? (Text.lower ['x']) (Text.lower dotted) = some 2 := by decide
  have hposition : BuiltinFunction.position (some 2) = int 2 := rfl
  have hlength : BuiltinFunction.lengthOf (word dotted) = int 2 := rfl
  simp only [BuiltinFunction.apply, BinaryOp.apply, like_word, onTexts_word, Bool.false_eq_true,
    if_false, if_true, bool_inj, hindex, hposition, hlength, and_true]
  decide

end Outcome

end EventText
