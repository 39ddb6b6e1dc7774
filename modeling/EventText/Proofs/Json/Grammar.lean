import EventText.Proofs.Json.Text
import EventText.Proofs.Number.Digits
import EventText.Proofs.Value.Parts

namespace EventText

namespace Json

-- The grammar of RFC 8259, one predicate on texts for each of its rules. A document is one
-- value, the escapes of a string and the parts of a number are those of sections 6 and 7.

def IsSpace (text : List Char) : Prop :=
  ∀ c ∈ text, c = ' ' ∨ c = '\t' ∨ c = '\n' ∨ c = '\r'

-- Brackets, braces, commas and colons may stand in spaces.
inductive IsStructural (c : Char) : List Char → Prop
  | intro {before after : List Char} (left : IsSpace before) (right : IsSpace after) :
      IsStructural c (before ++ c :: after)

def IsHexDigit (c : Char) : Prop :=
  ('0' ≤ c ∧ c ≤ '9') ∨ ('a' ≤ c ∧ c ≤ 'f') ∨ ('A' ≤ c ∧ c ≤ 'F')

-- What stands for one character, or for one half of a surrogate pair.
inductive IsStringChar : List Char → Prop
  | unescaped {c : Char} (control : 0x20 ≤ c.toNat) (quote : c ≠ '"') (backslash : c ≠ '\\') :
      IsStringChar [c]
  | short {c : Char} (letter : c ∈ ['"', '\\', '/', 'b', 'f', 'n', 'r', 't']) :
      IsStringChar ['\\', c]
  | unicode {digits : List Char} (four : digits.length = 4) (hex : ∀ d ∈ digits, IsHexDigit d) :
      IsStringChar ('\\' :: 'u' :: digits)

inductive IsString : List Char → Prop
  | intro {chars : List (List Char)} (each : ∀ text ∈ chars, IsStringChar text) :
      IsString ('"' :: chars.flatten ++ ['"'])

def IsDigits (text : List Char) : Prop := text ≠ [] ∧ ∀ c ∈ text, c.isDigit = true

-- No zero stands in front of another digit.
def IsInteger (text : List Char) : Prop := IsDigits text ∧ (text.head? = some '0' → text = ['0'])

inductive IsFraction : List Char → Prop
  | none : IsFraction []
  | some {text : List Char} (digits : IsDigits text) : IsFraction ('.' :: text)

inductive IsExponent : List Char → Prop
  | none : IsExponent []
  | some {e : Char} {sign text : List Char} (letter : e = 'e' ∨ e = 'E')
      (signs : sign = [] ∨ sign = ['+'] ∨ sign = ['-']) (digits : IsDigits text) :
      IsExponent (e :: sign ++ text)

inductive IsNumber : List Char → Prop
  | intro {minus integer fraction exponent : List Char} (sign : minus = [] ∨ minus = ['-'])
      (whole : IsInteger integer) (part : IsFraction fraction) (power : IsExponent exponent) :
      IsNumber (minus ++ integer ++ fraction ++ exponent)

mutual

inductive IsValue : List Char → Prop
  | null : IsValue "null".toList
  | true : IsValue "true".toList
  | false : IsValue "false".toList
  | number {text : List Char} (h : IsNumber text) : IsValue text
  | string {text : List Char} (h : IsString text) : IsValue text
  | emptyArray {a b : List Char} (opening : IsStructural '[' a) (closing : IsStructural ']' b) :
      IsValue (a ++ b)
  | array {a items b : List Char} (opening : IsStructural '[' a) (inner : IsItems items)
      (closing : IsStructural ']' b) : IsValue (a ++ items ++ b)
  | emptyObject {a b : List Char} (opening : IsStructural '\x7b' a)
      (closing : IsStructural '\x7d' b) : IsValue (a ++ b)
  | object {a members b : List Char} (opening : IsStructural '\x7b' a) (inner : IsMembers members)
      (closing : IsStructural '\x7d' b) : IsValue (a ++ members ++ b)

inductive IsItems : List Char → Prop
  | last {item : List Char} (value : IsValue item) : IsItems item
  | cons {item comma rest : List Char} (value : IsValue item) (separator : IsStructural ',' comma)
      (more : IsItems rest) : IsItems (item ++ comma ++ rest)

inductive IsMember : List Char → Prop
  | intro {name colon item : List Char} (string : IsString name)
      (separator : IsStructural ':' colon) (value : IsValue item) :
      IsMember (name ++ colon ++ item)

inductive IsMembers : List Char → Prop
  | last {member : List Char} (value : IsMember member) : IsMembers member
  | cons {member comma rest : List Char} (value : IsMember member)
      (separator : IsStructural ',' comma) (more : IsMembers rest) :
      IsMembers (member ++ comma ++ rest)

end

inductive IsDocument : List Char → Prop
  | intro {before text after : List Char} (left : IsSpace before) (value : IsValue text)
      (right : IsSpace after) : IsDocument (before ++ text ++ after)

-- The writer leaves out all spaces.

theorem isSpace_nil : IsSpace [] := fun _ h => nomatch h

theorem IsStructural.bare (c : Char) : IsStructural c [c] := .intro isSpace_nil isSpace_nil

theorem isHexDigit_hexDigitUpper : ∀ n < 16, IsHexDigit (hexDigitUpper n) := by
  unfold IsHexDigit
  decide

theorem isStringChar_escapeChar (c : Char) : IsStringChar (escapeChar c) := by
  unfold escapeChar
  iterate 6 split; exact .short (by decide)
  split
  · next h =>
    refine .unicode rfl ?_
    have hhigh := isHexDigit_hexDigitUpper (c.toNat / 16) (by omega)
    have hlow := isHexDigit_hexDigitUpper (c.toNat % 16) (Nat.mod_lt _ (by decide))
    have hzero : IsHexDigit '0' := .inl (by decide)
    simp only [List.forall_mem_cons]
    exact ⟨hzero, hzero, hhigh, hlow, fun _ h => nomatch h⟩
  · next hquote hbackslash _ _ _ _ h => exact .unescaped (Nat.le_of_not_lt h) hquote hbackslash

theorem isString_quote (text : List Char) : IsString (quote text) := by
  have h : ∀ part ∈ text.map escapeChar, IsStringChar part := by
    intro part hpart
    obtain ⟨c, -, rfl⟩ := List.mem_map.mp hpart
    exact isStringChar_escapeChar c
  exact .intro h

theorem isInteger_natText (n : Nat) : IsInteger (natText n) := by
  refine ⟨⟨?_, ?_⟩, ?_⟩
  · obtain ⟨c, rest, htext, -⟩ := natText_eq_cons n
    simp [htext]
  · intro c hc
    obtain ⟨d, -, rfl⟩ := List.mem_map.mp hc
    exact d.isDigit_toChar
  · intro hhead
    cases hdigits : Digits.ofNat n with
    | nil => exact absurd hdigits (Digits.ofNat_ne_nil n)
    | cons d digits =>
      rw [natText, hdigits] at hhead ⊢
      have hd : d = 0 := (by decide : ∀ d : Digit, d.toChar = '0' → d = 0) d
        (Option.some.inj hhead)
      subst hd
      rw [Digits.ofNat_eq_zero_cons hdigits]
      rfl

theorem isNumber_intText (n : Int) : IsNumber (intText n) := by
  have hnumber {minus : List Char} (hminus : minus = [] ∨ minus = ['-']) :
      IsNumber (minus ++ natText n.natAbs) := by
    simpa using IsNumber.intro hminus (isInteger_natText n.natAbs) .none .none
  unfold intText
  split
  · exact hnumber (.inr rfl)
  · exact hnumber (.inl rfl)

theorem isNumber_natText (n : Nat) : IsNumber (natText n) := isNumber_intText n

theorem isValue_scalarText {s : Scalar} (h : ∀ x, s ≠ .float x) : IsValue (scalarText s) := by
  cases s with
  | null => exact .null
  | bool b => cases b <;> constructor
  | int n => exact .number (isNumber_intText n.toInt)
  | uint n => exact .number (isNumber_natText n.toNat)
  | float x => exact absurd rfl (h x)
  | char c => exact .string (isString_quote _)
  | string text => exact .string (isString_quote _)
  | timestamp t => exact .string (isString_quote _)

theorem isMember_memberText (name : String) {text : List Char} (h : IsValue text) :
    IsMember (memberText name text) := by
  simpa [memberText, quoteString] using
    IsMember.intro (isString_quote name.toList) (.bare ':') h

theorem isItems_joined {text : List Char} {texts : List (List Char)}
    (h : ∀ t ∈ text :: texts, IsValue t) : IsItems (joined (text :: texts)) := by
  induction texts generalizing text with
  | nil => simpa [joined] using IsItems.last (h text List.mem_cons_self)
  | cons other texts ih =>
    have hrest := ih fun t ht => h t (List.mem_cons_of_mem _ ht)
    simpa [joined] using IsItems.cons (h text List.mem_cons_self) (.bare ',') hrest

theorem isMembers_joined {text : List Char} {texts : List (List Char)}
    (h : ∀ t ∈ text :: texts, IsMember t) : IsMembers (joined (text :: texts)) := by
  induction texts generalizing text with
  | nil => simpa [joined] using IsMembers.last (h text List.mem_cons_self)
  | cons other texts ih =>
    have hrest := ih fun t ht => h t (List.mem_cons_of_mem _ ht)
    simpa [joined] using IsMembers.cons (h text List.mem_cons_self) (.bare ',') hrest

theorem isValue_array {texts : List (List Char)} (h : ∀ t ∈ texts, IsValue t) :
    IsValue (enclosedText '[' ']' texts) := by
  cases texts with
  | nil => exact .emptyArray (.bare '[') (.bare ']')
  | cons text texts =>
    simpa [enclosedText] using IsValue.array (.bare '[') (isItems_joined h) (.bare ']')

theorem isValue_object {texts : List (List Char)} (h : ∀ t ∈ texts, IsMember t) :
    IsValue (enclosedText '\x7b' '\x7d' texts) := by
  cases texts with
  | nil => exact .emptyObject (.bare '\x7b') (.bare '\x7d')
  | cons text texts =>
    simpa [enclosedText] using IsValue.object (.bare '\x7b') (isMembers_joined h) (.bare '\x7d')

theorem isValue_object_fields {v : Value} (h : ∀ c ∈ v.children, IsValue c.json) :
    IsValue (enclosedText '\x7b' '\x7d' (v.fields.map fun f => memberText f.1 f.2.json)) := by
  refine isValue_object fun t ht => ?_
  obtain ⟨f, hf, rfl⟩ := List.mem_map.mp ht
  rcases Value.mem_fields hf with hchild | ⟨text, -, rfl⟩
  · exact isMember_memberText f.1 (h f.2 hchild)
  · have hvalue : IsValue (Value.ofString text).json := by
      rw [Value.ofString, Value.json_scalar]
      exact .string (isString_quote _)
    exact isMember_memberText _ hvalue

end Json

open Json in
theorem Value.isValue_json {v : Value} (h : v.NoFloats) : Json.IsValue v.json := by
  induction v using childInduction with
  | step v ih =>
    have hchild (c : Value) (hc : c ∈ v.children) : Json.IsValue c.json :=
      ih c hc (h.child hc)
    cases v with
    | scalar s =>
      rw [json_scalar]
      exact isValue_scalarText fun x hx => h.self x (hx ▸ rfl)
    | sequence items =>
      rw [json_sequence]
      refine isValue_array fun t ht => ?_
      obtain ⟨item, hitem, rfl⟩ := List.mem_map.mp ht
      exact hchild item hitem
    | record members tag =>
      rw [json_record]
      exact isValue_object_fields hchild
    | dictionary entries =>
      rw [json_dictionary]
      exact isValue_object_fields hchild

end EventText
