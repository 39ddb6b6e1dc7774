import EventText.Expr.Lexer
import EventText.Proofs.Number.Digits

namespace EventText

namespace Lexer

-- The words of a source, each by what it starts with, and what of them can change when more text
-- is put behind the source.

-- A number has a fraction if a point and a digit follow its first digits.
def HasFraction (chars rest : List Char) : Prop :=
  (Digits.scan chars).2 = '.' :: rest ∧ (Digits.scan rest).1 ≠ []

theorem decimalToken_fraction {chars rest : List Char} (h : HasFraction chars rest) :
    decimalToken chars =
      (.float (floatOfDigits (Digits.scan chars).1 (Digits.scan rest).1),
        (Digits.scan chars).1.length + 1 + (Digits.scan rest).1.length) := by
  obtain ⟨hpoint, hdigits⟩ := h
  unfold decimalToken
  rw [← Prod.eta (Digits.scan chars), hpoint]
  cases hrest : Digits.scan rest with
  | mk fraction after =>
    rw [hrest] at hdigits
    cases fraction with
    | nil => exact absurd rfl hdigits
    | cons d fraction => simp only [hrest]

theorem decimalToken_whole {chars : List Char} (h : ∀ rest, ¬ HasFraction chars rest) :
    decimalToken chars = (wholeToken (Digits.scan chars).1, (Digits.scan chars).1.length) := by
  unfold decimalToken
  rw [← Prod.eta (Digits.scan chars)]
  dsimp only
  split
  · next rest hrest =>
    split
    · rfl
    · next fraction after hne hscan => exact absurd ⟨hrest, by rw [hscan]; exact hne⟩ (h rest)
  · rfl

theorem decimalToken_text (digits : List Digit) :
    decimalToken (Digits.text digits) = (wholeToken digits, (Digits.text digits).length) := by
  rw [decimalToken_whole, Digits.scan_text_all, Digits.length_text]
  rintro rest ⟨hpoint, -⟩
  rw [Digits.scan_text_all] at hpoint
  cases hpoint

theorem length_decimalToken (chars : List Char) :
    (Digits.scan chars).1.length ≤ (decimalToken chars).2 ∧
      (decimalToken chars).2 ≤ chars.length := by
  have hlength := Digits.length_scan chars
  by_cases h : ∃ rest, HasFraction chars rest
  · obtain ⟨rest, hrest⟩ := h
    have hfraction := Digits.length_scan rest
    rw [hrest.1, List.length_cons] at hlength
    rw [decimalToken_fraction hrest]
    dsimp only
    omega
  · rw [decimalToken_whole (not_exists.mp h)]
    dsimp only
    omega

-- A brace behind a number ends it, also where a point follows its digits.
theorem decimalToken_append {chars : List Char} (tail : List Char)
    (h : '\x7d' ∈ chars.drop (decimalToken chars).2) :
    decimalToken (chars ++ tail) = decimalToken chars := by
  have hdrop := Digits.drop_scan chars
  by_cases hfraction : ∃ rest, HasFraction chars rest
  · obtain ⟨rest, hpoint, hdigits⟩ := hfraction
    rw [decimalToken_fraction ⟨hpoint, hdigits⟩] at h ⊢
    have hscan := Digits.scan_append tail (show (Digits.scan chars).2 ≠ [] by simp [hpoint])
    have hbeyond : (Digits.scan rest).2 ≠ [] := by
      rw [← Digits.drop_scan rest]
      rw [hpoint] at hdrop
      rw [Nat.add_assoc, ← List.drop_drop, hdrop, Nat.add_comm, List.drop_succ_cons] at h
      exact List.ne_nil_of_mem h
    have hrest := Digits.scan_append tail hbeyond
    have hwithin : HasFraction (chars ++ tail) (rest ++ tail) :=
      ⟨by simp [hscan, hpoint], by simp [hrest, hdigits]⟩
    rw [decimalToken_fraction hwithin, hscan, hrest]
  · have hwhole := not_exists.mp hfraction
    rw [decimalToken_whole hwhole, hdrop] at h
    have hscan := Digits.scan_append tail (List.ne_nil_of_mem h)
    rw [decimalToken_whole hwhole, decimalToken_whole, hscan]
    rintro rest ⟨hpoint, hdigits⟩
    rw [hscan] at hpoint
    cases hafter : (Digits.scan chars).2 with
    | nil => simp [hafter] at h
    | cons c after =>
      rw [hafter, List.cons_append] at hpoint
      obtain ⟨rfl, rfl⟩ := List.cons.inj hpoint
      have hnone : (Digits.scan after).1 = [] :=
        Classical.not_not.mp fun hsome => hwhole after ⟨hafter, hsome⟩
      have hrest : (Digits.scan after).2 = after := by
        simpa [hnone, Digits.text] using Digits.text_scan after
      have hmem : '\x7d' ∈ after := by simpa [hafter] using h
      rw [Digits.scan_append tail (by rw [hrest]; exact List.ne_nil_of_mem hmem)] at hdigits
      exact hdigits hnone

theorem takeWhile_append_of_lt (p : Char → Bool) {chars : List Char} (tail : List Char)
    (h : (chars.takeWhile p).length < chars.length) :
    (chars ++ tail).takeWhile p = chars.takeWhile p := by
  rw [List.takeWhile_append, if_neg (Nat.ne_of_lt h)]

theorem stringTail_le {chars text : List Char} {count : Nat}
    (h : stringTail chars = some (text, count)) : count ≤ chars.length := by
  fun_induction stringTail chars generalizing text count with
  | case1 => cases h
  | case2 rest ih =>
      obtain ⟨⟨inner, n⟩, hinner, heq⟩ := Option.map_eq_some_iff.mp h
      cases heq
      have := ih hinner
      simp only [List.length_cons]
      omega
  | case3 rest hne =>
      cases h
      simp
  | case4 c rest hdouble hquote ih =>
      obtain ⟨⟨inner, n⟩, hinner, heq⟩ := Option.map_eq_some_iff.mp h
      cases heq
      have := ih hinner
      simp only [List.length_cons]
      omega

theorem stringTail_append {chars text : List Char} {count : Nat} (tail : List Char)
    (h : stringTail chars = some (text, count)) (hlt : count < chars.length) :
    stringTail (chars ++ tail) = some (text, count) := by
  fun_induction stringTail chars generalizing text count with
  | case1 => cases h
  | case2 rest ih =>
      obtain ⟨⟨inner, n⟩, hinner, heq⟩ := Option.map_eq_some_iff.mp h
      cases heq
      rw [List.cons_append, List.cons_append, stringTail, ih hinner (by simpa using hlt)]
      rfl
  | case3 rest hne =>
      cases h
      cases rest with
      | nil => simp at hlt
      | cons d rest =>
        rw [List.cons_append, List.cons_append, stringTail]
        simpa using hne
  | case4 c rest hdouble hquote ih =>
      obtain ⟨⟨inner, n⟩, hinner, heq⟩ := Option.map_eq_some_iff.mp h
      cases heq
      have : stringTail (rest ++ tail) = some (inner, n) := ih hinner (by simpa using hlt)
      rw [List.cons_append, stringTail, this]
      · rfl
      · exact fun _ hc => absurd hc hquote
      · simpa using hquote

theorem symbol?_append {chars : List Char} {s : Symbol} {count : Nat} (tail : List Char)
    (h : symbol? chars = some (s, count))
    (hclosed : s = .rightBrace ∨ count < chars.length) :
    symbol? (chars ++ tail) = some (s, count) := by
  fun_cases symbol? chars
  -- Points and angle brackets may be the start of a longer symbol.
  case case13 rest _ => cases rest <;> simp_all [symbol?]
  case case22 rest _ _ => cases rest <;> simp_all [symbol?]
  case case23 rest _ => cases rest <;> simp_all [symbol?]
  case case24 => simp_all [symbol?]
  all_goals exact h

-- A symbol stands at the front as it is spelled.
theorem spelling_of_symbol? {chars : List Char} {s : Symbol} {count : Nat}
    (h : symbol? chars = some (s, count)) :
    s.spelling.toList <+: chars ∧ count = s.spelling.toList.length := by
  fun_cases symbol? chars
  case case24 => simp_all [symbol?]
  -- Here a point or an angle bracket is no start of a longer symbol.
  case case13 | case22 | case23 =>
    simp_all only [symbol?]
    cases h
    simp [Symbol.spelling]
  all_goals cases h; simp [Symbol.spelling]

theorem symbol?_length {chars : List Char} {s : Symbol} {count : Nat}
    (h : symbol? chars = some (s, count)) : 0 < count ∧ count ≤ chars.length := by
  obtain ⟨hfront, rfl⟩ := spelling_of_symbol? h
  exact ⟨by cases s <;> decide, hfront.length_le⟩

-- What a token looks like, by the characters that it starts with.
inductive Scanned : List Char → Token → Nat → Prop
  | eof : Scanned [] .eof 0
  | string {rest text count} (h : stringTail rest = some (text, count)) :
      Scanned ('\'' :: rest) (.string (String.ofList text)) (count + 1)
  | builtin {rest} (h : nameLength rest ≠ 0) :
      Scanned ('@' :: rest) (.builtin (String.ofList (rest.takeWhile Text.isNameChar)))
        (nameLength rest + 1)
  | hexadecimal {x rest token} (hx : x = 'x' ∨ x = 'X')
      (h : hexToken? (rest.takeWhile isHexDigit) = some token) :
      Scanned ('0' :: x :: rest) token ((rest.takeWhile isHexDigit).length + 2)
  | decimal {c rest} (hc : c.isDigit)
      (hx : ¬ (c = '0' ∧ (rest.head? = some 'x' ∨ rest.head? = some 'X'))) :
      Scanned (c :: rest) (decimalToken (c :: rest)).1 (decimalToken (c :: rest)).2
  | name {c rest} (hquote : c ≠ '\'') (hsign : c ≠ '@') (hdigit : ¬ c.isDigit)
      (hc : Text.isAlphabetic c || c == '_') :
      Scanned (c :: rest) (.identifier (String.ofList ((c :: rest).takeWhile Text.isNameChar)))
        (nameLength (c :: rest))
  | symbol {c rest s count} (hquote : c ≠ '\'') (hsign : c ≠ '@') (hdigit : ¬ c.isDigit)
      (hc : ¬ (Text.isAlphabetic c || c == '_')) (h : symbol? (c :: rest) = some (s, count)) :
      Scanned (c :: rest) (.symbol s) count

theorem scanned_of_scan {chars : List Char} {token : Token} {count : Nat}
    (h : scan chars = .ok (token, count)) : Scanned chars token count := by
  unfold scan at h
  split at h
  · cases h
    exact .eof
  · split at h
    · next text n hstring =>
      cases h
      exact .string hstring
    · cases h
  · split at h
    · cases h
    · next hname =>
      cases h
      exact .builtin hname
  · next c rest hquote hsign =>
    split at h
    · next hdigit =>
      split at h
      · next hx =>
        obtain ⟨rfl, hx⟩ := hx
        cases rest with
        | nil => simp at hx
        | cons x rest =>
          dsimp only [List.drop_succ_cons, List.drop_zero] at h
          split at h
          · next token htoken =>
            cases h
            exact .hexadecimal (by simpa using hx) htoken
          · cases h
      · next hx =>
        obtain ⟨rfl, rfl⟩ := Prod.mk.inj (Except.ok.inj h)
        exact .decimal hdigit hx
    · next hdigit =>
      split at h
      · next hc =>
        cases h
        exact .name hquote hsign hdigit hc
      · next hc =>
        split at h
        · next s n hsymbol =>
          cases h
          exact .symbol hquote hsign hdigit hc hsymbol
        · cases h

theorem Scanned.scan_eq {chars : List Char} {token : Token} {count : Nat}
    (h : Scanned chars token count) : scan chars = .ok (token, count) := by
  cases h with
  | eof => rfl
  | string h => rw [scan, h]
  | builtin h => rw [scan, if_neg h]
  | @hexadecimal x rest token hx h =>
    have hhead : (x :: rest).head? = some 'x' ∨ (x :: rest).head? = some 'X' := by simpa using hx
    have hdigits : ((x :: rest).drop 1).takeWhile isHexDigit = rest.takeWhile isHexDigit := rfl
    rw [scan, if_pos (by decide), if_pos ⟨rfl, hhead⟩, hdigits]
    · simp only [h]
    · decide
    · decide
  | @decimal c rest hc hx =>
    rw [scan, if_pos hc, if_neg hx]
    · rintro rfl
      cases hc
    · rintro rfl
      cases hc
  | name hquote hsign hdigit hc => rw [scan, if_neg hdigit, if_pos hc] <;> assumption
  | symbol hquote hsign hdigit hc h => rw [scan, if_neg hdigit, if_neg hc, h] <;> assumption

theorem scan_eq_ok_iff {chars : List Char} {token : Token} {count : Nat} :
    scan chars = .ok (token, count) ↔ Scanned chars token count :=
  ⟨scanned_of_scan, Scanned.scan_eq⟩

-- Numbers are read as numbers.

theorem hexToken?_number {digits : List Char} {token : Token} (h : hexToken? digits = some token) :
    (∃ n, token = .integer n) ∨ ∃ x, token = .float x := by
  unfold hexToken? at h
  dsimp only at h
  split at h
  · cases h
  · split at h <;> cases h <;> simp

theorem decimalToken_number (chars : List Char) :
    (∃ n, (decimalToken chars).1 = .integer n) ∨ ∃ x, (decimalToken chars).1 = .float x := by
  by_cases h : ∃ rest, HasFraction chars rest
  · obtain ⟨rest, hrest⟩ := h
    simp [decimalToken_fraction hrest]
  · rw [decimalToken_whole (not_exists.mp h)]
    simp only [wholeToken]
    split <;> simp

theorem hexToken?_ne_symbol {digits : List Char} {token : Token}
    (h : hexToken? digits = some token) (s : Symbol) : token ≠ .symbol s := by
  rcases hexToken?_number h with ⟨_, rfl⟩ | ⟨_, rfl⟩ <;> simp

theorem decimalToken_ne_symbol (chars : List Char) (s : Symbol) :
    (decimalToken chars).1 ≠ .symbol s := by
  rcases decimalToken_number chars with ⟨_, h⟩ | ⟨_, h⟩ <;> simp [h]

theorem decimalToken_pos {c : Char} {rest : List Char} (hc : c.isDigit) :
    0 < (decimalToken (c :: rest)).2 := by
  obtain ⟨d, hd⟩ := Digit.exists_ofChar? hc
  have hfirst : 0 < (Digits.scan (c :: rest)).1.length := by
    simp only [Digits.scan, hd, List.length_cons]
    omega
  exact Nat.lt_of_lt_of_le hfirst (length_decimalToken _).1

theorem lt_length_of_mem_drop {c : Char} {chars : List Char} {count : Nat}
    (h : c ∈ chars.drop count) : count < chars.length := by
  have := List.length_pos_of_mem h
  rw [List.length_drop] at this
  omega

theorem takeWhile_length_le (p : Char → Bool) (chars : List Char) :
    (chars.takeWhile p).length ≤ chars.length := (List.takeWhile_prefix p).length_le

namespace Scanned

-- Every token but the end takes a character.
theorem length {chars : List Char} {token : Token} {count : Nat} (h : Scanned chars token count) :
    count ≤ chars.length ∧ (token ≠ .eof → 0 < count) := by
  cases h with
  | eof => simp
  | string h =>
    have := stringTail_le h
    simp [this]
  | builtin h => simp [nameLength, takeWhile_length_le]
  | @hexadecimal _ rest _ _ h =>
    have := takeWhile_length_le isHexDigit rest
    simp only [List.length_cons]
    omega
  | decimal hc _ => exact ⟨(length_decimalToken _).2, fun _ => decimalToken_pos hc⟩
  | @name c rest _ _ _ hc =>
    have hname : Text.isNameChar c = true := by
      simp only [Text.isNameChar, Text.isAlphanumeric] at hc ⊢
      grind
    refine ⟨takeWhile_length_le _ _, fun _ => ?_⟩
    simp [nameLength, hname]
  | symbol _ _ _ _ h =>
    have := symbol?_length h
    exact ⟨this.2, fun _ => this.1⟩

-- Only the end of a source is read as its end.
theorem eq_nil {chars : List Char} {count : Nat} (h : Scanned chars .eof count) :
    chars = [] ∧ count = 0 := by
  generalize htoken : Token.eof = token at h
  cases h with
  | eof => exact ⟨rfl, rfl⟩
  | hexadecimal _ htext => rcases hexToken?_number htext with ⟨_, rfl⟩ | ⟨_, rfl⟩ <;> cases htoken
  | decimal =>
    rcases decimalToken_number (_ :: _) with ⟨_, hnumber⟩ | ⟨_, hnumber⟩ <;>
      exact absurd (htoken.trans hnumber) (by simp)
  | _ => cases htoken

-- What follows a token does not matter once a brace stands behind it.
theorem append {chars : List Char} {token : Token} {count : Nat} (tail : List Char)
    (h : Scanned chars token count)
    (hclosed : token = .symbol .rightBrace ∨ '\x7d' ∈ chars.drop count) :
    Scanned (chars ++ tail) token count := by
  have hlt (hne : token ≠ .symbol .rightBrace) : count < chars.length :=
    lt_length_of_mem_drop (hclosed.resolve_left hne)
  cases h with
  | eof => simp at hclosed
  | string h => exact .string (stringTail_append tail h (by simpa using hlt (by simp)))
  | @builtin rest h =>
    have htake := takeWhile_append_of_lt Text.isNameChar tail
      (Nat.lt_of_succ_lt_succ (hlt (by simp)))
    have := @builtin (rest ++ tail) (by rw [nameLength, htake]; exact h)
    rwa [nameLength, htake] at this
  | @hexadecimal x rest token hx h =>
    have hrest : (rest.takeWhile isHexDigit).length < rest.length := by
      simpa using hlt (hexToken?_ne_symbol h _)
    have htake := takeWhile_append_of_lt isHexDigit tail hrest
    have := @hexadecimal x (rest ++ tail) token hx (by rw [htake]; exact h)
    rwa [htake] at this
  | @decimal c rest hc hx =>
    have hmem := hclosed.resolve_left (decimalToken_ne_symbol _ _)
    have happend := decimalToken_append tail hmem
    have hhead : (rest ++ tail).head? = rest.head? := by
      have hpos : 0 < (decimalToken (c :: rest)).2 := decimalToken_pos hc
      have hrest := lt_length_of_mem_drop hmem
      cases rest with
      | nil => simp only [List.length_singleton] at hrest; omega
      | cons => rfl
    have := @decimal c (rest ++ tail) hc (by rw [hhead]; exact hx)
    rw [List.cons_append] at happend ⊢
    rwa [happend] at this
  | @name c rest hquote hsign hdigit hc =>
    have htake := takeWhile_append_of_lt Text.isNameChar tail (hlt (by simp))
    have := @name c (rest ++ tail) hquote hsign hdigit hc
    rw [List.cons_append] at htake ⊢
    rwa [nameLength, htake] at this
  | @symbol c rest s count hquote hsign hdigit hc h =>
    refine .symbol hquote hsign hdigit hc (symbol?_append tail h ?_)
    by_cases hs : s = .rightBrace
    · exact .inl hs
    · exact .inr (hlt (by simpa using hs))

end Scanned

theorem mem_of_symbol?_rightBrace {chars : List Char} {count : Nat}
    (h : symbol? chars = some (.rightBrace, count)) : '\x7d' ∈ chars :=
  (spelling_of_symbol? h).1.subset (by decide)

theorem Scanned.mem_rightBrace {chars : List Char} {count : Nat}
    (h : Scanned chars (.symbol .rightBrace) count) : '\x7d' ∈ chars := by
  generalize htoken : Token.symbol .rightBrace = token at h
  cases h with
  | symbol _ _ _ _ hsymbol =>
    cases htoken
    exact mem_of_symbol?_rightBrace hsymbol
  | hexadecimal _ htext => exact absurd htoken.symm (hexToken?_ne_symbol htext _)
  | decimal => exact absurd htoken.symm (decimalToken_ne_symbol _ _)
  | _ => cases htoken

end Lexer

end EventText
