import EventText.Proofs.Expr.Placement
import Mathlib.Data.List.TakeWhile

namespace EventText

open Text (encodedLength)

theorem Cursor.position_skipWhile (c : Cursor) (p : Char → Bool) :
    (c.skipWhile p).position = c.position + encodedLength (c.chars.takeWhile p) := by
  rw [List.prefix_iff_eq_take.mp (List.takeWhile_prefix p (l := c.chars))]
  rfl

namespace Lexer

-- What a token is cut out of does not matter: its own characters are read as the same token.

theorem takeWhile_take (p : Char → Bool) (chars : List Char) :
    (chars.take (chars.takeWhile p).length).takeWhile p = chars.takeWhile p := by
  rw [← List.prefix_iff_eq_take.mp (List.takeWhile_prefix p)]
  exact List.takeWhile_idem

theorem stringTail_take {chars text : List Char} {count : Nat}
    (h : stringTail chars = some (text, count)) :
    stringTail (chars.take count) = some (text, count) := by
  fun_induction stringTail chars generalizing text count with
  | case1 => cases h
  | case2 rest ih =>
      obtain ⟨⟨inner, n⟩, hinner, heq⟩ := Option.map_eq_some_iff.mp h
      cases heq
      rw [List.take_succ_cons, List.take_succ_cons, stringTail, ih hinner]
      rfl
  | case3 rest hne =>
      cases h
      rfl
  | case4 c rest hdouble hquote ih =>
      obtain ⟨⟨inner, n⟩, hinner, heq⟩ := Option.map_eq_some_iff.mp h
      cases heq
      rw [List.take_succ_cons, stringTail, ih hinner]
      · rfl
      · exact fun _ hc => absurd hc hquote
      · exact hquote

theorem decimalToken_take (chars : List Char) :
    decimalToken (chars.take (decimalToken chars).2) = decimalToken chars := by
  have htext := Digits.text_scan chars
  by_cases h : ∃ rest, HasFraction chars rest
  · obtain ⟨rest, hrest⟩ := h
    let word := Digits.text (Digits.scan chars).1 ++ '.' :: Digits.text (Digits.scan rest).1
    have hscan : Digits.scan word
        = ((Digits.scan chars).1, '.' :: Digits.text (Digits.scan rest).1) :=
      Digits.scan_text _ fun c hc => by cases hc; rfl
    have hword : HasFraction word (Digits.text (Digits.scan rest).1) :=
      ⟨congrArg Prod.snd hscan, by rw [Digits.scan_text_all]; exact hrest.2⟩
    have htake : chars.take (decimalToken chars).2 = word := by
      have hchars : word ++ (Digits.scan rest).2 = chars := by
        rw [List.append_assoc, List.cons_append, Digits.text_scan, ← hrest.1, htext]
      have hlength : word.length = (decimalToken chars).2 := by
        simp only [decimalToken_fraction hrest, word, List.length_append, List.length_cons,
          Digits.length_text]
        omega
      rw [← hlength]
      exact (List.prefix_iff_eq_take.mp ⟨_, hchars⟩).symm
    rw [htake, decimalToken_fraction hword, decimalToken_fraction hrest, hscan,
      Digits.scan_text_all]
  · have hwhole := not_exists.mp h
    have htake : chars.take (decimalToken chars).2 = Digits.text (Digits.scan chars).1 := by
      rw [decimalToken_whole hwhole, ← Digits.length_text]
      exact (List.prefix_iff_eq_take.mp ⟨_, htext⟩).symm
    rw [htake, decimalToken_whole hwhole, decimalToken_text, Digits.length_text]

theorem symbol?_take {chars : List Char} {s : Symbol} {count : Nat}
    (h : symbol? chars = some (s, count)) : symbol? (chars.take count) = some (s, count) := by
  obtain ⟨hfront, rfl⟩ := spelling_of_symbol? h
  rw [← List.prefix_iff_eq_take.mp hfront]
  cases s <;> rfl

theorem Scanned.take {chars : List Char} {token : Token} {count : Nat}
    (h : Scanned chars token count) : Scanned (chars.take count) token count := by
  have hpos := h.length.2
  cases h with
  | eof => exact .eof
  | string h => exact .string (stringTail_take h)
  | @builtin rest h =>
    have htake := takeWhile_take Text.isNameChar rest
    have := @builtin (rest.take (nameLength rest)) (by rwa [nameLength, nameLength, htake])
    rwa [nameLength, nameLength, htake] at this
  | @hexadecimal x rest token hx h =>
    have htake := takeWhile_take isHexDigit rest
    have := @hexadecimal x (rest.take (rest.takeWhile isHexDigit).length) token hx (by rwa [htake])
    rwa [htake] at this
  | @decimal c rest hc hx =>
    have htake := decimalToken_take (c :: rest)
    obtain ⟨n, hn⟩ := Nat.exists_eq_succ_of_ne_zero (@decimalToken_pos c rest hc).ne'
    have hhead :
        ¬ (c = '0' ∧ ((rest.take n).head? = some 'x' ∨ (rest.take n).head? = some 'X')) := by
      cases n with
      | zero => simp
      | succ n => rwa [List.head?_take, if_neg (Nat.succ_ne_zero n)]
    have := @decimal c (rest.take n) hc hhead
    rw [hn, List.take_succ_cons] at htake ⊢
    rw [htake] at this
    rwa [hn] at this
  | @name c rest hquote hsign hdigit hc =>
    have htake := takeWhile_take Text.isNameChar (c :: rest)
    obtain ⟨n, hn⟩ := Nat.exists_eq_succ_of_ne_zero (hpos (by simp)).ne'
    have hlength : ((c :: rest).takeWhile Text.isNameChar).length = n + 1 := hn
    have := @name c (rest.take n) hquote hsign hdigit hc
    rw [hlength, List.take_succ_cons] at htake
    rw [hn, List.take_succ_cons]
    rwa [nameLength, htake, hlength] at this
  | @symbol c rest s count hquote hsign hdigit hc h =>
    obtain ⟨n, rfl⟩ := Nat.exists_eq_succ_of_ne_zero (symbol?_length h).1.ne'
    exact .symbol hquote hsign hdigit hc (symbol?_take h)

-- Blanks stand in front of the token that is taken, and it is what its characters are alone.
structure Takes (c : Cursor) (lexeme : Lexeme) (rest : Cursor) (blanks word : List Char) :
    Prop where
  blank : ∀ b ∈ blanks, Text.isBlank b = true
  not_blank : ∀ b ∈ word.head?, Text.isBlank b = false
  chars : c.chars = blanks ++ (word ++ rest.chars)
  start : lexeme.start = c.position + encodedLength blanks
  stop : lexeme.stop = lexeme.start + encodedLength word
  position : rest.position = lexeme.stop
  scanned : Scanned word lexeme.token word.length
  ended : lexeme.token = .eof → word = [] ∧ rest.chars = []

theorem exists_takes {c rest : Cursor} {lexeme : Lexeme} (h : next c = .ok (lexeme, rest)) :
    ∃ blanks word, Takes c lexeme rest blanks word := by
  unfold next at h
  dsimp only at h
  split at h
  · next token count hscan =>
    cases h
    have hscanned := scanned_of_scan hscan
    have hskip : c.skipBlank.chars = c.chars.dropWhile Text.isBlank := c.chars_skipWhile _
    have hrest : (c.skipBlank.drop count).chars = c.skipBlank.chars.drop count := rfl
    have hlength : (c.skipBlank.chars.take count).length = count := by
      rw [List.length_take, Nat.min_eq_left hscanned.length.1]
    refine ⟨c.chars.takeWhile Text.isBlank, c.skipBlank.chars.take count, ?_⟩
    constructor
    · exact fun b hb => List.mem_takeWhile_imp hb
    · intro b hb
      have hnot := List.head?_dropWhile_not Text.isBlank c.chars
      rw [List.head?_take, hskip] at hb
      split at hb
      · cases hb
      · rwa [hb] at hnot
    · rw [hrest, List.take_append_drop, hskip, List.takeWhile_append_dropWhile]
    · exact c.position_skipWhile _
    · rfl
    · rfl
    · rw [hlength]
      exact hscanned.take
    · intro heof
      have hend : Scanned c.skipBlank.chars .eof count := heof ▸ hscanned
      obtain ⟨hnil, rfl⟩ := hend.eq_nil
      exact ⟨List.take_zero, by rw [hrest, hnil]; rfl⟩
  · cases h

end Lexer

end EventText
