import EventText.Proofs.Expr.Levels
import Mathlib.Data.List.TakeWhile

namespace EventText

-- Texts that are written word by word, with a blank between two words.

-- The end of a text or a blank.
def Spaced (tail : List Char) : Prop := ∀ c ∈ tail.head?, c = ' '

theorem Spaced.takeWhile_append {p : Char → Bool} {tail : List Char} (h : Spaced tail)
    (hp : p ' ' = false) {chars : List Char} (hchars : ∀ c ∈ chars, p c = true) :
    (chars ++ tail).takeWhile p = chars := by
  rw [List.takeWhile_append_of_pos hchars]
  cases tail with
  | nil => simp
  | cons c rest =>
    obtain rfl : c = ' ' := h c rfl
    simp [hp]

namespace Digits

theorem scan_append_spaced {chars tail : List Char} (h : (scan chars).2 = []) (ht : Spaced tail) :
    scan (chars ++ tail) = ((scan chars).1, tail) := by
  induction chars with
  | nil =>
    cases tail with
    | nil => rfl
    | cons c rest =>
      obtain rfl : c = ' ' := ht c rfl
      rfl
  | cons c rest ih =>
    rw [List.cons_append]
    unfold scan at h ⊢
    split
    · next hnone => simp [hnone] at h
    · next d hd =>
      rw [hd] at h
      rw [ih h]

end Digits

namespace Lexer

-- A number in decimal digits and nothing else, with or without a fraction.
structure IsDecimal (chars : List Char) : Prop where
  digit : ∃ c ∈ chars.head?, c.isDigit
  whole : (decimalToken chars).2 = chars.length

theorem decimalToken_append_spaced {chars tail : List Char} (h : IsDecimal chars)
    (ht : Spaced tail) : decimalToken (chars ++ tail) = decimalToken chars := by
  have hwhole := h.whole
  have hlength := Digits.length_scan chars
  by_cases hfraction : ∃ rest, HasFraction chars rest
  · obtain ⟨rest, hpoint, hdigits⟩ := hfraction
    rw [decimalToken_fraction ⟨hpoint, hdigits⟩] at hwhole ⊢
    have hscan := Digits.scan_append tail (show (Digits.scan chars).2 ≠ [] by simp [hpoint])
    have hbeyond : (Digits.scan rest).2 = [] := by
      have hrest := Digits.length_scan rest
      rw [hpoint, List.length_cons] at hlength
      exact List.eq_nil_of_length_eq_zero (by dsimp only at hwhole; omega)
    have hrest := Digits.scan_append_spaced hbeyond ht
    have hwithin : HasFraction (chars ++ tail) (rest ++ tail) :=
      ⟨by simp [hscan, hpoint], by simpa [hrest]⟩
    rw [decimalToken_fraction hwithin, hscan, hrest]
  · have hnone := not_exists.mp hfraction
    rw [decimalToken_whole hnone] at hwhole ⊢
    have hbeyond : (Digits.scan chars).2 = [] :=
      List.eq_nil_of_length_eq_zero (by dsimp only at hwhole; omega)
    have hscan := Digits.scan_append_spaced hbeyond ht
    rw [decimalToken_whole, hscan]
    rintro rest ⟨hpoint, -⟩
    rw [hscan] at hpoint
    obtain rfl : tail = '.' :: rest := hpoint
    exact absurd (ht '.' rfl) (by decide)

theorem IsDecimal.scanned {chars tail : List Char} (h : IsDecimal chars) (ht : Spaced tail) :
    Scanned (chars ++ tail) (decimalToken chars).1 chars.length := by
  obtain ⟨c, hc, hdigit⟩ := h.digit
  obtain ⟨rest, rfl⟩ := List.head?_eq_some_iff.mp hc
  have happend := decimalToken_append_spaced h ht
  have hx : ¬ (c = '0' ∧ ((rest ++ tail).head? = some 'x' ∨ (rest ++ tail).head? = some 'X')) := by
    rintro ⟨rfl, hx⟩
    cases rest with
    | nil =>
      rcases hx with hx | hx <;> exact absurd (ht _ hx) (by decide)
    | cons x rest =>
      have hwhole := h.whole
      have hx : x = 'x' ∨ x = 'X' := by simpa using hx
      rcases hx with rfl | rfl <;> simp [decimalToken, Digits.scan, Digit.ofChar?] at hwhole
  have hscanned := @Scanned.decimal c (rest ++ tail) hdigit hx
  rw [← List.cons_append, happend, h.whole] at hscanned
  exact hscanned

end Lexer

-- What a name can start with.
def isNameStart (c : Char) : Bool := Text.isAlphabetic c || c == '_'

structure IsName (name : String) : Prop where
  start : ∃ c ∈ name.toList.head?, isNameStart c
  all : ∀ c ∈ name.toList, Text.isNameChar c

instance (name : String) : Decidable (IsName name) :=
  decidable_of_iff
    (name.toList.head?.any isNameStart = true ∧ name.toList.all Text.isNameChar = true)
    ⟨fun h => ⟨Option.any_eq_true _ _ |>.mp h.1, List.all_eq_true.mp h.2⟩,
      fun h => ⟨Option.any_eq_true _ _ |>.mpr h.start, List.all_eq_true.mpr h.all⟩⟩

theorem not_isBlank_of_isNameStart {c : Char} (h : isNameStart c) : Text.isBlank c = false := by
  have hnone : ∀ range ∈ Text.blankRanges, ∀ i ≤ 10, range.1 + i ≤ range.2 →
      Text.inRanges (range.1 + i) Text.alphabeticRanges = false ∧ range.1 + i ≠ '_'.toNat := by
    decide +kernel
  cases hblank : Text.isBlank c with
  | false => rfl
  | true =>
    obtain ⟨range, hrange, hlow, hhigh⟩ := Text.exists_range_of_inRanges hblank
    have hlength : ∀ range ∈ Text.blankRanges, range.2 ≤ range.1 + 10 := by decide
    have hle := hlength range hrange
    obtain ⟨halphabetic, hline⟩ := hnone range hrange (c.toNat - range.1) (by omega) (by omega)
    rw [Nat.add_sub_cancel' hlow] at halphabetic hline
    have hc : Text.isAlphabetic c = false := halphabetic
    have hne : c ≠ '_' := fun hc => hline (congrArg Char.toNat hc)
    simp [isNameStart, hc, hne] at h

-- A word of the expression language with its spelling.
structure Word where
  token : Token
  chars : List Char

namespace Word

def symbol (s : Symbol) : Word := ⟨.symbol s, s.spelling.toList⟩

def name (name : String) : Word := ⟨.identifier name, name.toList⟩

def builtin (p : BuiltinProperty) : Word := ⟨.builtin p.name, '@' :: p.name.toList⟩

def number (chars : List Char) : Word := ⟨(Lexer.decimalToken chars).1, chars⟩

-- The characters of a string with its quotes doubled.
def doubled : List Char → List Char
  | [] => []
  | '\'' :: rest => '\'' :: '\'' :: doubled rest
  | c :: rest => c :: doubled rest

def string (text : String) : Word :=
  ⟨.string text, '\'' :: (doubled text.toList ++ ['\''])⟩

-- A word that is read as what it is, whatever stands behind the blank after it.
structure Lexes (w : Word) : Prop where
  start : ∃ c ∈ w.chars.head?, Text.isBlank c = false
  scanned : ∀ tail, Spaced tail → Lexer.Scanned (w.chars ++ tail) w.token w.chars.length

theorem lexes_number {chars : List Char} (h : Lexer.IsDecimal chars) : (number chars).Lexes := by
  obtain ⟨c, hc, hdigit⟩ := h.digit
  refine ⟨⟨c, hc, ?_⟩, fun tail ht => h.scanned ht⟩
  obtain ⟨d, hd⟩ := Digit.exists_ofChar? hdigit
  rw [← Digit.toChar_of_ofChar? hd]
  exact (by decide : ∀ d : Digit, Text.isBlank d.toChar = false) d

theorem lexes_symbol (s : Symbol) : (symbol s).Lexes := by
  refine ⟨by cases s <;> exact ⟨_, rfl, by decide⟩, fun tail ht => ?_⟩
  cases tail with
  | nil =>
    cases s <;> exact .symbol (by decide) (by decide) (by decide) (by decide) rfl
  | cons c rest =>
    obtain rfl : c = ' ' := ht c rfl
    cases s <;> exact .symbol (by decide) (by decide) (by decide) (by decide) rfl

theorem lexes_name {text : String} (h : IsName text) : (name text).Lexes := by
  obtain ⟨c, hc, hstart⟩ := h.start
  obtain ⟨rest, hrest⟩ := List.head?_eq_some_iff.mp hc
  refine ⟨⟨c, hc, not_isBlank_of_isNameStart hstart⟩, fun tail ht => ?_⟩
  have hdigit : ¬ c.isDigit := by
    intro hdigit
    obtain ⟨d, hd⟩ := Digit.exists_ofChar? hdigit
    rw [← Digit.toChar_of_ofChar? hd,
      (by decide : ∀ d : Digit, isNameStart d.toChar = false) d] at hstart
    cases hstart
  have hscanned := @Lexer.Scanned.name c (rest ++ tail) (by rintro rfl; cases hstart)
    (by rintro rfl; cases hstart) hdigit hstart
  have hall := ht.takeWhile_append (by decide) h.all
  rw [hrest] at hall
  rw [Lexer.nameLength, ← List.cons_append, hall, ← hrest, String.ofList_toList] at hscanned
  exact hscanned

theorem lexes_builtin (p : BuiltinProperty) : (builtin p).Lexes := by
  refine ⟨⟨'@', rfl, by decide⟩, fun tail ht => ?_⟩
  have hall : (p.name.toList ++ tail).takeWhile Text.isNameChar = p.name.toList :=
    ht.takeWhile_append (by decide) (List.all_eq_true.mp (by cases p <;> decide))
  have hscanned := @Lexer.Scanned.builtin (p.name.toList ++ tail) (by
    rw [Lexer.nameLength, hall]
    cases p <;> decide)
  rw [Lexer.nameLength, hall, String.ofList_toList] at hscanned
  exact hscanned

theorem stringTail_doubled (chars : List Char) {tail : List Char} (ht : Spaced tail) :
    Lexer.stringTail (doubled chars ++ '\'' :: tail) =
      some (chars, (doubled chars).length + 1) := by
  fun_induction doubled chars with
  | case1 =>
    cases tail with
    | nil => rfl
    | cons c rest =>
      obtain rfl : c = ' ' := ht c rfl
      rfl
  | case2 rest ih =>
    rw [List.cons_append, List.cons_append, Lexer.stringTail, ih]
    rfl
  | case3 c rest hne ih =>
    rw [List.cons_append, Lexer.stringTail, ih]
    · rfl
    · exact fun _ hc => absurd hc hne
    · exact hne

theorem lexes_string (text : String) : (string text).Lexes := by
  refine ⟨⟨'\'', rfl, by decide⟩, fun tail ht => ?_⟩
  have hscanned := Lexer.Scanned.string (stringTail_doubled text.toList ht)
  rw [String.ofList_toList] at hscanned
  simpa [string] using hscanned

end Word

-- The words of a text with a blank in front of each.
def spaced (words : List Word) : List Char := words.flatMap fun w => ' ' :: w.chars

-- The text of words that are written one after the other.
def line : List Word → List Char
  | [] => []
  | w :: rest => w.chars ++ spaced rest

theorem spaced_spaced (words : List Word) : Spaced (spaced words) := by
  cases words with
  | nil => exact fun c hc => by cases hc
  | cons w rest => exact fun c hc => by simpa [spaced, eq_comm] using hc

-- Reading words one after the other leads from one place to another.
def Follows : List Word → Lookahead → Lookahead → Prop
  | [], s, s' => s = s'
  | w :: rest, s, s' => s.token = w.token ∧ ∃ s₁, s.advance = .ok s₁ ∧ Follows rest s₁ s'

theorem follows_append {front back : List Word} {s s' : Lookahead} :
    Follows (front ++ back) s s' ↔ ∃ s₁, Follows front s s₁ ∧ Follows back s₁ s' := by
  induction front generalizing s with
  | nil => simp [Follows]
  | cons w rest ih =>
    simp only [List.cons_append, Follows, ih]
    constructor
    · rintro ⟨htoken, s₁, hadvance, s₂, hrest, hback⟩
      exact ⟨s₂, ⟨htoken, s₁, hadvance, hrest⟩, hback⟩
    · rintro ⟨s₂, ⟨htoken, s₁, hadvance, hrest⟩, hback⟩
      exact ⟨htoken, s₁, hadvance, s₂, hrest, hback⟩

theorem left_of_follows {words : List Word} {s s' : Lookahead} (h : Follows words s s') :
    s'.left ≤ s.left := by
  induction words generalizing s with
  | nil =>
    obtain rfl := h
    exact Nat.le_refl _
  | cons w rest ih =>
    obtain ⟨-, s₁, hadvance, hrest⟩ := h
    have hs := Placement.agrees_advance (p := .whole) s
    rw [hadvance] at hs
    exact Nat.le_trans (ih hrest) hs.1.left

-- Blanks in front of a word do not count.
theorem ofCursor_word {w : Word} (h : w.Lexes) (blanks : List Char) {tail : List Char}
    (hblanks : ∀ c ∈ blanks, Text.isBlank c = true) (ht : Spaced tail) (position : Nat) :
    ∃ s, Lookahead.ofCursor ⟨blanks ++ (w.chars ++ tail), position⟩ = .ok s ∧
      s.token = w.token ∧ s.rest.chars = tail := by
  have hskip : (Cursor.skipBlank ⟨blanks ++ (w.chars ++ tail), position⟩).chars =
      w.chars ++ tail := by
    obtain ⟨c, hc, hblank⟩ := h.start
    obtain ⟨rest, hrest⟩ := List.head?_eq_some_iff.mp hc
    rw [Cursor.skipBlank, Cursor.chars_skipWhile, List.dropWhile_append_of_pos hblanks, hrest,
      List.cons_append, List.dropWhile_cons_of_neg (by simp [hblank])]
  have hscan := (h.scanned tail ht).scan_eq
  rw [← hskip] at hscan
  refine ⟨_, by simp only [Lookahead.ofCursor, Lexer.next, hscan]; rfl, rfl, ?_⟩
  simp only [Cursor.drop, hskip, List.drop_left]

theorem ofCursor_nil (position : Nat) :
    ∃ s, Lookahead.ofCursor ⟨[], position⟩ = .ok s ∧ s.token = .eof :=
  ⟨_, rfl, rfl⟩

theorem follows_spaced {words : List Word} (h : ∀ w ∈ words, w.Lexes) (position : Nat) :
    ∃ s s', Lookahead.ofCursor ⟨spaced words, position⟩ = .ok s ∧ Follows words s s' ∧
      s'.token = .eof := by
  induction words generalizing position with
  | nil =>
    obtain ⟨s, hs, heof⟩ := ofCursor_nil position
    exact ⟨s, s, hs, rfl, heof⟩
  | cons w rest ih =>
    obtain ⟨hw, hrest⟩ := List.forall_mem_cons.mp h
    obtain ⟨s, hs, htoken, hbehind⟩ := ofCursor_word hw [' ']
      (List.forall_mem_singleton.mpr rfl) (spaced_spaced rest) position
    obtain ⟨s₁, s', hs₁, hfollows, heof⟩ := ih hrest s.rest.position
    rw [← hbehind] at hs₁
    exact ⟨s, s', hs, ⟨htoken, s₁, hs₁, hfollows⟩, heof⟩

theorem follows_line {words : List Word} (h : ∀ w ∈ words, w.Lexes) (position : Nat) :
    ∃ s s', Lookahead.ofCursor ⟨line words, position⟩ = .ok s ∧ Follows words s s' ∧
      s'.token = .eof := by
  cases words with
  | nil => exact follows_spaced h position
  | cons w rest =>
    obtain ⟨hw, hrest⟩ := List.forall_mem_cons.mp h
    obtain ⟨s, hs, htoken, hbehind⟩ := ofCursor_word hw [] nofun (spaced_spaced rest) position
    obtain ⟨s₁, s', hs₁, hfollows, heof⟩ := follows_spaced hrest s.rest.position
    rw [← hbehind] at hs₁
    exact ⟨s, s', hs, ⟨htoken, s₁, hs₁, hfollows⟩, heof⟩

namespace Lookahead

variable {s s' : Lookahead}

theorem expectSymbol_of {symbol : Symbol} (h : s.token = .symbol symbol)
    (hadvance : s.advance = .ok s') : s.expectSymbol symbol = .ok s' := by
  rw [expectSymbol, atSymbol, h, if_pos (by simp [Token.isSymbol]), hadvance]

theorem expectKeyword_of {word : String} (h : s.atKeyword word = true)
    (hadvance : s.advance = .ok s') : s.expectKeyword word = .ok s' := by
  rw [expectKeyword, if_pos h, hadvance]

theorem acceptKeyword_of {word : String} (h : s.atKeyword word = true)
    (hadvance : s.advance = .ok s') : s.acceptKeyword word = .ok (true, s') := by
  rw [acceptKeyword, if_pos h, hadvance]
  rfl

theorem acceptKeyword_of_not {word : String} (h : s.atKeyword word = false) :
    s.acceptKeyword word = .ok (false, s) := by
  rw [acceptKeyword, h]
  rfl

end Lookahead

end EventText
