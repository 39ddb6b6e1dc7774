import EventText.Proofs.Expr.Positions
import EventText.Proofs.Expr.Words

namespace EventText

-- A number as it is written: decimal digits, with a minus sign in front of them if there is one.
structure Numeral where
  negative : Bool
  chars : List Char

namespace Numeral

def ofInt (n : Int64) : Numeral := ⟨decide (n.toInt < 0), natText n.toInt.natAbs⟩

def words (numeral : Numeral) : List Word :=
  if numeral.negative then [.symbol .minus, .number numeral.chars] else [.number numeral.chars]

-- A sign is read as an operator, and gone once it has been applied.
def level (numeral : Numeral) : Nat := if numeral.negative then 7 else 8

def magnitude? : Token → Option Scalar
  | .integer n => some (.int n)
  | .float x => some (.float x)
  | _ => none

-- The numeral is read back as a number.
structure Spells (numeral : Numeral) (s : Scalar) : Prop where
  decimal : Lexer.IsDecimal numeral.chars
  value : ∃ m, magnitude? (Lexer.decimalToken numeral.chars).1 = some m ∧
    (if numeral.negative then ExprReader.negation (.constant m) else .constant m) = .constant s

theorem isDecimal_text {digits : List Digit} (h : digits ≠ []) :
    Lexer.IsDecimal (Digits.text digits) := by
  refine ⟨?_, by rw [Lexer.decimalToken_text]⟩
  obtain ⟨d, rest, rfl⟩ := List.exists_cons_of_ne_nil h
  exact ⟨d.toChar, rfl, d.isDigit_toChar⟩

-- Zeros may stand in front.
theorem spells_int {n : Int64} {digits : List Digit} (hdigits : digits ≠ [])
    (hvalue : Digits.toNat digits = n.toInt.natAbs) (h : n ≠ Int64.minValue) :
    Spells ⟨decide (n.toInt < 0), Digits.text digits⟩ (.int n) := by
  have hleast : n.toInt ≠ -2 ^ 63 := fun hn => h (Int64.toInt_inj.mp hn)
  have hlow := n.le_toInt
  have hhigh := n.toInt_lt
  have hlt : n.toInt.natAbs < 2 ^ 63 := by omega
  have hint : (Int64.ofNat n.toInt.natAbs).toInt = n.toInt.natAbs := Int64.toInt_ofNat_of_lt hlt
  refine ⟨isDecimal_text hdigits, .int (Int64.ofNat n.toInt.natAbs), ?_, ?_⟩
  · simp only [Lexer.decimalToken_text, Lexer.wholeToken, hvalue, if_pos hlt]
    rfl
  · by_cases hneg : n.toInt < 0
    · have hne : Int64.ofNat n.toInt.natAbs ≠ Int64.minValue := by
        intro heq
        rw [heq, Int64.toInt_minValue] at hint
        omega
      have hn : -Int64.ofNat n.toInt.natAbs = n := by
        rw [← Int64.toInt_inj, Int64.toInt_neg_ofNat_of_le (Nat.le_of_lt hlt)]
        omega
      simp only [hneg, decide_true, if_true, ExprReader.negation, if_neg hne, hn]
    · have hn : Int64.ofNat n.toInt.natAbs = n := by
        rw [← Int64.toInt_inj, hint]
        omega
      simp [hneg, hn]

theorem spells_ofInt {n : Int64} (h : n ≠ Int64.minValue) : (ofInt n).Spells (.int n) :=
  spells_int (Digits.ofNat_ne_nil _) (Digits.toNat_ofNat _) h

end Numeral

namespace BinaryOp

def level : BinaryOp → Nat
  | or => 1
  | and => 2
  | equal | notEqual | less | lessOrEqual | greater | greaterOrEqual => 3
  | like | notLike | isIn | notIn => 3
  | add | subtract => 4
  | multiply | divide | modulo => 5
  | power => 6

-- The levels of the operands. Operators group to the left, powers to the right.
def leftLevel : BinaryOp → Nat
  | power => 7
  | op => op.level

def rightLevel : BinaryOp → Nat
  | power => 6
  | op => op.level + 1

def words : BinaryOp → List Word
  | or => [.name "or"]
  | and => [.name "and"]
  | equal => [.symbol .equal]
  | notEqual => [.symbol .notEqual]
  | less => [.symbol .less]
  | lessOrEqual => [.symbol .lessOrEqual]
  | greater => [.symbol .greater]
  | greaterOrEqual => [.symbol .greaterOrEqual]
  | like => [.name "like"]
  | notLike => [.name "not", .name "like"]
  | isIn => [.name "in"]
  | notIn => [.name "not", .name "in"]
  | add => [.symbol .plus]
  | subtract => [.symbol .minus]
  | multiply => [.symbol .star]
  | divide => [.symbol .slash]
  | modulo => [.symbol .percent]
  | power => [.symbol .caret]

end BinaryOp

def Quantifier.word : Quantifier → Word
  | any => .symbol .question
  | all => .symbol .star

-- Words in parentheses.
def parenthesized (words : List Word) : List Word :=
  .symbol .leftParen :: (words ++ [.symbol .rightParen])

-- Words of one level where another one is expected.
def enclosed (expected level : Nat) (words : List Word) : List Word :=
  if level < expected then parenthesized words else words

def commas : List (List Word) → List Word
  | [] => []
  | [words] => words
  | words :: rest => words ++ .symbol .comma :: commas rest

namespace Expr

-- The names that mean something else where an expression starts.
def isReserved (name : String) : Bool :=
  ["true", "false", "null", "if", "not"].any (Text.sameIgnoringAsciiCase name ·)

-- A branch in front of an `else` would take it if it ends in a conditional without one.
def dangles : Expr → Bool
  | .conditional _ _ none => true
  | .conditional _ _ (some alternative) => alternative.dangles
  | _ => false

section

variable (spell : Float → Numeral)

def scalarWords : Scalar → List Word
  | .null => [.name "null"]
  | .bool b => [.name (if b then "true" else "false")]
  | .int n => (Numeral.ofInt n).words
  | .float x => (spell x).words
  | .string text => [.string text]
  | _ => []

-- How tightly the outermost construct of an expression binds, from a conditional to a primary.
def level : Expr → Nat
  | .constant (.int n) => (Numeral.ofInt n).level
  | .constant (.float x) => (spell x).level
  | .unary .not _ | .unary .negate _ => 7
  | .unary .isNull _ | .unary .isNotNull _ => 3
  | .binary op _ _ _ _ => op.level
  | .conditional _ _ _ => 0
  | _ => 8

mutual

-- The words of an expression. Parentheses stand around operands that bind less tightly than their
-- operator needs, around branches that would take an `else`, and in front of `ci`.
def words : Expr → List Word
  | .constant s => scalarWords spell s
  | .property name => [.name name]
  | .builtin p => [.builtin p]
  | .slot _ => []
  | .member target name =>
      enclosed 8 (target.level spell) (words target) ++ [.symbol .dot, .name name]
  | .index target key =>
      enclosed 8 (target.level spell) (words target) ++
        .symbol .leftBracket :: (words key ++ [.symbol .rightBracket])
  | .wildcard target q =>
      enclosed 8 (target.level spell) (words target) ++
        [.symbol .leftBracket, q.word, .symbol .rightBracket]
  | .call name arguments ignoreCase _ =>
      .name name :: .symbol .leftParen :: (commas (wordsAll arguments) ++
        .symbol .rightParen :: if ignoreCase then [.name "ci"] else [])
  | .unary .not operand => .name "not" :: enclosed 7 (operand.level spell) (words operand)
  | .unary .negate operand => .symbol .minus :: enclosed 7 (operand.level spell) (words operand)
  | .unary .isNull operand =>
      enclosed 3 (operand.level spell) (words operand) ++ [.name "is", .name "null"]
  | .unary .isNotNull operand =>
      enclosed 3 (operand.level spell) (words operand) ++ [.name "is", .name "not", .name "null"]
  | .binary op left right ignoreCase _ =>
      enclosed op.leftLevel (left.level spell) (words left) ++ (op.words ++
        if ignoreCase then parenthesized (words right) ++ [.name "ci"]
        else enclosed op.rightLevel (right.level spell) (words right))
  | .conditional condition consequent none =>
      .name "if" :: (words condition ++ .name "then" :: words consequent)
  | .conditional condition consequent (some alternative) =>
      .name "if" :: (words condition ++ .name "then" ::
        ((if consequent.dangles then parenthesized (words consequent) else words consequent) ++
          .name "else" :: words alternative))
  | .array elements =>
      .symbol .leftBracket :: (commas (wordsElements elements) ++ [.symbol .rightBracket])
  | .object members =>
      .symbol .leftBrace :: (commas (wordsMembers members) ++ [.symbol .rightBrace])

def wordsAll : List Expr → List (List Word)
  | [] => []
  | e :: rest => words e :: wordsAll rest

def wordsElements : List (Element Expr) → List (List Word)
  | [] => []
  | .item e :: rest => words e :: wordsElements rest
  | .spread e :: rest => (.symbol .dotDot :: words e) :: wordsElements rest

-- Names of members are quoted, so that they can be any text.
def wordsMembers : List (Member Expr) → List (List Word)
  | [] => []
  | .named name e :: rest => (.string name :: .symbol .colon :: words e) :: wordsMembers rest
  | .spread e :: rest => (.symbol .dotDot :: words e) :: wordsMembers rest

end

def elementWords : Element Expr → List Word
  | .item e => words spell e
  | .spread e => .symbol .dotDot :: words spell e

def memberWords : Member Expr → List Word
  | .named name e => .string name :: .symbol .colon :: words spell e
  | .spread e => .symbol .dotDot :: words spell e

theorem wordsAll_eq_map (es : List Expr) : wordsAll spell es = es.map (words spell) := by
  induction es with
  | nil => rfl
  | cons e rest ih => rw [wordsAll, ih, List.map_cons]

theorem wordsElements_eq_map (elements : List (Element Expr)) :
    wordsElements spell elements = elements.map (elementWords spell) := by
  induction elements with
  | nil => rfl
  | cons element rest ih =>
    cases element <;> rw [wordsElements, ih, List.map_cons, elementWords]

theorem wordsMembers_eq_map (members : List (Member Expr)) :
    wordsMembers spell members = members.map (memberWords spell) := by
  induction members with
  | nil => rfl
  | cons member rest ih =>
    cases member <;> rw [wordsMembers, ih, List.map_cons, memberWords]

def text (e : Expr) : String := String.ofList (line (e.words spell))

-- What a node of an expression must be like to stand for itself in a text: there are names of
-- their own kind for names, signs of numbers belong to the numbers, and `ci` goes with comparisons.
def IsWritable : Expr → Prop
  | .constant (.int n) => n ≠ Int64.minValue
  | .constant (.float x) => (spell x).Spells (.float x)
  | .constant (.uint _) | .constant (.char _) | .constant (.timestamp _) => False
  | .property name => IsName name ∧ isReserved name = false
  | .slot _ => False
  | .member _ name => IsName name
  | .call name _ _ _ => IsName name ∧ isReserved name = false
  | .unary .negate (.constant (.int _)) | .unary .negate (.constant (.float _)) => False
  | .binary op _ _ ignoreCase _ => ignoreCase = true → op.level = 3
  | _ => True

-- An expression that can be written down and read again.
def IsPrintable (e : Expr) : Prop := ∀ f : Expr, f.Occurs e → f.IsWritable spell

variable {spell}

theorem IsPrintable.writable {e : Expr} (h : e.IsPrintable spell) : e.IsWritable spell :=
  h e .here

theorem isPrintable_iff {e : Expr} :
    e.IsPrintable spell ↔ e.IsWritable spell ∧ ∀ c ∈ e.children, c.IsPrintable spell := by
  constructor
  · exact fun h => ⟨h e .here, fun c hc f hf => h f (.inside hc hf)⟩
  · rintro ⟨hw, hchildren⟩ f hf
    rcases occurs_iff.mp hf with rfl | ⟨c, hc, hf⟩
    · exact hw
    · exact hchildren c hc f hf

theorem IsPrintable.child {c e : Expr} (h : e.IsPrintable spell) (hc : c ∈ e.children) :
    c.IsPrintable spell := fun f hf => h f (.inside hc hf)

end

end Expr

-- Every word of a printable expression is read as what it is.
section

def AllLex (words : List Word) : Prop := ∀ w ∈ words, w.Lexes

@[simp] theorem allLex_nil : AllLex [] := by simp [AllLex]

@[simp] theorem allLex_cons {w : Word} {words : List Word} :
    AllLex (w :: words) ↔ w.Lexes ∧ AllLex words := List.forall_mem_cons

@[simp] theorem allLex_append {front back : List Word} :
    AllLex (front ++ back) ↔ AllLex front ∧ AllLex back := List.forall_mem_append

attribute [simp] Word.lexes_symbol Word.lexes_builtin Word.lexes_string

@[simp] theorem allLex_parenthesized {words : List Word} :
    AllLex (parenthesized words) ↔ AllLex words := by
  simp [parenthesized]

@[simp] theorem allLex_enclosed {k m : Nat} {words : List Word} :
    AllLex (enclosed k m words) ↔ AllLex words := by
  unfold enclosed
  split <;> simp

theorem allLex_commas {items : List (List Word)} (h : ∀ words ∈ items, AllLex words) :
    AllLex (commas items) := by
  fun_induction commas items with
  | case1 => simp
  | case2 words => exact h words (by simp)
  | case3 words rest hne ih =>
    simp only [List.forall_mem_cons] at h
    simp [h.1, ih h.2]

theorem isName_keyword : ∀ word ∈ ["null", "true", "false", "is", "not", "if", "then", "else",
    "ci", "or", "and", "like", "in"], IsName word := by
  decide

@[simp] theorem lexes_keyword {word : String} (h : word ∈ ["null", "true", "false", "is", "not",
    "if", "then", "else", "ci", "or", "and", "like", "in"]) : (Word.name word).Lexes :=
  Word.lexes_name (isName_keyword word h)

theorem Numeral.Spells.allLex {numeral : Numeral} {s : Scalar} (h : numeral.Spells s) :
    AllLex numeral.words := by
  unfold Numeral.words
  split <;> simp [Word.lexes_number h.decimal]

theorem BinaryOp.allLex_words (op : BinaryOp) : AllLex op.words := by
  cases op <;> simp [BinaryOp.words]

theorem Expr.allLex_words {spell : Float → Numeral} {e : Expr} (h : e.IsPrintable spell) :
    AllLex (e.words spell) := by
  induction e using childInduction with
  | step e ih =>
    have hc (c : Expr) (hmem : c ∈ e.children) : AllLex (c.words spell) := ih c hmem (h.child hmem)
    have hw := h.writable
    cases e with
    | constant s =>
      cases s with
      | int n => exact (Numeral.spells_ofInt hw).allLex
      | float x => exact Numeral.Spells.allLex hw
      | bool b => cases b <;> simp [words, scalarWords]
      | null | string => simp [words, scalarWords]
      | _ => exact hw.elim
    | property name => simpa [words] using Word.lexes_name hw.1
    | slot => exact hw.elim
    | member target name =>
      simpa [words, Word.lexes_name hw] using hc target (by simp [children])
    | wildcard target q =>
      cases q <;> simpa [words, Quantifier.word] using hc target (by simp [children])
    | call name arguments ignoreCase position =>
      have hall : AllLex (commas (wordsAll spell arguments)) := by
        refine allLex_commas ?_
        rw [wordsAll_eq_map]
        exact List.forall_mem_map.mpr hc
      cases ignoreCase <;> simpa [words, Word.lexes_name hw.1] using hall
    | array elements =>
      have hall : AllLex (commas (wordsElements spell elements)) := by
        refine allLex_commas ?_
        rw [wordsElements_eq_map]
        simp only [List.forall_mem_map]
        intro element helement
        have := hc element.content (List.mem_map_of_mem helement)
        cases element <;> simpa [elementWords, Element.content] using this
      simpa [words] using hall
    | object members =>
      have hall : AllLex (commas (wordsMembers spell members)) := by
        refine allLex_commas ?_
        rw [wordsMembers_eq_map]
        simp only [List.forall_mem_map]
        intro member hmember
        have := hc member.content (List.mem_map_of_mem hmember)
        cases member <;> simpa [memberWords, Member.content] using this
      simpa [words] using hall
    | conditional condition consequent alternative =>
      cases alternative with
      | none => simpa [words, children] using hc
      | some alternative =>
        have hconsequent : AllLex (if consequent.dangles then
            parenthesized (consequent.words spell) else consequent.words spell) := by
          have := hc consequent (by simp [children])
          split <;> simpa using this
        simpa [words, hconsequent, children] using
          And.intro (hc condition (by simp [children])) (hc alternative (by simp [children]))
    | unary op operand => cases op <;> simpa [words, children] using hc
    | binary op left right ignoreCase position =>
      cases ignoreCase <;>
        simpa [words, children, BinaryOp.allLex_words] using hc
    | index => simpa [words, children] using hc
    | builtin => simp [words]

end

end EventText
