import EventText.Output.Theme
import EventText.Proofs.Text.Utf8

namespace EventText

namespace ControlCode

-- The byte that starts a control sequence.
def escape : UInt8 := 0x1B

def bracket : UInt8 := 0x5B

def final : UInt8 := 0x6D

-- Digits and semicolons stand between the bracket and the final letter.
def isParameter (b : UInt8) : Bool := (0x30 ≤ b && b ≤ 0x39) || b == 0x3B

-- A code for the look of what follows: an escape, a bracket, parameters and the letter m.
def Is (code : Bytes) : Prop :=
  ∃ parameters : Bytes, (∀ b ∈ parameters, isParameter b = true) ∧
    code = escape :: bracket :: (parameters ++ [final])

-- Codes one after the other, possibly none.
inductive Are : Bytes → Prop
  | nil : Are []
  | cons {code rest : Bytes} (first : Is code) (others : Are rest) : Are (code ++ rest)

-- What stands behind a code at the front.
def behind? : Bytes → Option Bytes
  | first :: second :: rest =>
      if first = escape ∧ second = bracket then
        match rest.dropWhile isParameter with
        | letter :: rest => if letter = final then some rest else none
        | [] => none
      else none
  | _ => none

theorem length_behind? {bytes rest : Bytes} (h : behind? bytes = some rest) :
    rest.length < bytes.length := by
  unfold behind? at h
  split at h
  · next first second tail =>
    split at h
    · have hdrop : (tail.dropWhile isParameter).length ≤ tail.length :=
        (List.dropWhile_suffix isParameter).length_le
      split at h
      · next letter others hrest =>
        split at h
        · cases h
          rw [hrest] at hdrop
          simp only [List.length_cons] at hdrop ⊢
          omega
        · cases h
      · cases h
    · cases h
  · cases h

-- The bytes without the codes among them.
def strip : Bytes → Bytes
  | [] => []
  | b :: bytes =>
      match _h : behind? (b :: bytes) with
      | some rest => strip rest
      | none => b :: strip bytes
termination_by bytes => bytes.length
decreasing_by
  · exact length_behind? _h
  · exact Nat.lt_succ_self _

theorem behind?_code {code : Bytes} (h : Is code) (rest : Bytes) :
    behind? (code ++ rest) = some rest := by
  obtain ⟨parameters, hparameters, rfl⟩ := h
  have hdrop : ((parameters ++ [final]) ++ rest).dropWhile isParameter = final :: rest := by
    rw [List.append_assoc, List.dropWhile_append_of_pos hparameters]
    exact List.dropWhile_cons_of_neg (by decide)
  rw [List.cons_append, List.cons_append, behind?, if_pos ⟨rfl, rfl⟩, hdrop]
  exact if_pos rfl

theorem behind?_of_ne {b : UInt8} (h : b ≠ escape) (rest : Bytes) : behind? (b :: rest) = none := by
  cases rest with
  | nil => rfl
  | cons second rest => exact if_neg fun hboth => h hboth.1

theorem strip_behind {bytes rest : Bytes} (h : behind? bytes = some rest) :
    strip bytes = strip rest := by
  cases bytes with
  | nil => cases h
  | cons b bytes =>
      rw [strip]
      split
      · next other hother =>
        rw [h] at hother
        cases hother
        rfl
      · next hnone =>
        rw [h] at hnone
        cases hnone

theorem strip_code {code : Bytes} (h : Is code) (rest : Bytes) :
    strip (code ++ rest) = strip rest :=
  strip_behind (behind?_code h rest)

theorem strip_codes {codes : Bytes} (h : Are codes) (rest : Bytes) :
    strip (codes ++ rest) = strip rest := by
  induction h with
  | nil => rfl
  | cons first others ih => rw [List.append_assoc, strip_code first, ih]

-- Every code starts with an escape, so that bytes without one stay as they are.
theorem strip_plain {bytes : Bytes} (h : escape ∉ bytes) (rest : Bytes) :
    strip (bytes ++ rest) = bytes ++ strip rest := by
  induction bytes with
  | nil => rfl
  | cons b bytes ih =>
      have hb : b ≠ escape := fun heq => h (heq ▸ List.mem_cons_self)
      have hbytes : escape ∉ bytes := fun hmem => h (List.mem_cons_of_mem b hmem)
      rw [List.cons_append, strip]
      split
      · next other hother =>
        rw [behind?_of_ne hb] at hother
        cases hother
      · rw [ih hbytes, List.cons_append]

-- No byte of a code continues a character. A code that is counted as columns counts with its whole
-- length.

private theorem not_isContinuation_parameter :
    ∀ b : UInt8, isParameter b = true → Text.isContinuation b = false := by
  intro b hb
  have hsmall : ∀ k < 128, Text.isContinuation (UInt8.ofNat k) = false := by decide
  have hlt : b.toNat < 128 := by
    simp only [isParameter, Bool.or_eq_true, Bool.and_eq_true, decide_eq_true_eq, beq_iff_eq,
      UInt8.le_iff_toNat_le] at hb
    rcases hb with ⟨-, hle⟩ | rfl
    · exact Nat.lt_of_le_of_lt hle (by decide)
    · decide
  have hb := hsmall b.toNat hlt
  rw [UInt8.ofNat_toNat] at hb
  exact hb

theorem columns_code {code : Bytes} (h : Is code) : Text.columns code = code.length := by
  obtain ⟨parameters, hparameters, rfl⟩ := h
  refine List.countP_eq_length.mpr fun b hb => ?_
  have hbyte : Text.isContinuation b = false := by
    rcases List.mem_cons.mp hb with rfl | hb
    · decide
    rcases List.mem_cons.mp hb with rfl | hb
    · decide
    rcases List.mem_append.mp hb with hb | hb
    · exact not_isContinuation_parameter b (hparameters b hb)
    · obtain rfl := List.mem_singleton.mp hb
      decide
  rw [hbyte]
  rfl

theorem columns_codes {codes : Bytes} (h : Are codes) : Text.columns codes = codes.length := by
  induction h with
  | nil => rfl
  | cons first others ih => rw [Text.columns_append, columns_code first, ih, List.length_append]

theorem Is.are {code : Bytes} (h : Is code) : Are code := by
  have hare := Are.cons h .nil
  rw [List.append_nil] at hare
  exact hare

theorem is_resetCode : Is Style.resetCode := ⟨[0x30], List.all_eq_true.mp rfl, rfl⟩

end ControlCode

namespace Theme

-- All sequences of the theme are made of codes.
def Coded (theme : Theme) : Prop :=
  ∀ role sequence, theme.style role = some sequence → ControlCode.Are sequence

-- The sequences that a theme puts around a text.
def Sends (theme : Theme) (sequence : Bytes) : Prop :=
  ∃ role style, theme.style role = some style ∧ (sequence = style ∨ sequence = Style.resetCode)

theorem Coded.are {theme : Theme} (h : theme.Coded) {sequence : Bytes}
    (hsends : theme.Sends sequence) : ControlCode.Are sequence := by
  obtain ⟨role, style, hstyle, rfl | rfl⟩ := hsends
  · exact h role _ hstyle
  · exact ControlCode.is_resetCode.are

theorem coded_none : none.Coded := by
  intro role sequence hstyle
  cases hstyle

theorem not_sends_none (sequence : Bytes) : ¬ none.Sends sequence := by
  rintro ⟨role, style, hstyle, -⟩
  cases hstyle

theorem are_codes {parameters : List String} {sequence : Bytes}
    (h : codes parameters = some sequence)
    (hparameters : parameters.all (fun p => (Text.encode p).all ControlCode.isParameter) = true) :
    ControlCode.Are sequence := by
  cases h
  induction parameters with
  | nil => exact .nil
  | cons p rest ih =>
      rw [List.all_cons, Bool.and_eq_true] at hparameters
      have hrest := ih hparameters.2
      have hcode : ControlCode.Is (0x1B :: Text.encode ("[" ++ p ++ "m")) := by
        refine ⟨Text.encode p, List.all_eq_true.mp hparameters.1, ?_⟩
        have hencode : Text.encode ("[" ++ p ++ "m")
            = Text.encode "[" ++ Text.encode p ++ Text.encode "m" := by
          simp only [Text.encode, String.toList_append, List.flatMap_append]
        rw [hencode]
        rfl
      exact .cons hcode hrest

-- The themes that can be asked for by name.
theorem coded_ofBaseName? {name : String} {theme : Theme} (h : ofBaseName? name = some theme) :
    theme.Coded := by
  intro role sequence hstyle
  unfold ofBaseName? at h
  split at h <;> cases h
  · cases hstyle
  all_goals
    cases role with
    | level level => cases level <;> exact are_codes hstyle (by decide)
    | _ => exact are_codes hstyle (by decide)

end Theme

end EventText
