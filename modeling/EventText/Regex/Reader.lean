import EventText.Number.Digits
import EventText.Regex.Pattern
import EventText.Text.Classes

namespace EventText.Regex

-- Every reader returns what it read and the characters behind it. Invalid patterns are not read.
abbrev Reader (α : Type) := List Char → Option (α × List Char)

-- The accepted characters up to one that is not, and what stands behind them. In the extended
-- mode blanks and comments around them are left out.
def run (extended : Bool) (accept : Char → Bool) (inComment : Bool) :
    List Char → List Char × List Char
  | [] => ([], [])
  | c :: rest =>
      if inComment then run extended accept (c != '\n') rest
      else if extended && Text.isBlank c then run extended accept false rest
      else if extended && c == '#' then run extended accept true rest
      else if accept c then
        let (found, behind) := run extended accept false rest
        (c :: found, behind)
      else ([], c :: rest)

-- What stands behind the blanks and comments that the extended mode leaves out.
def gap (extended : Bool) (chars : List Char) : List Char :=
  (run extended (fun _ => false) false chars).2

-- The inside of braces behind the opening one.
def braced (extended : Bool) (chars : List Char) : Option (List Char × List Char) :=
  match run extended (· != '\x7d') false chars with
  | (content, _ :: rest) => some (content, rest)
  | (_, []) => none

def isHexDigit (c : Char) : Bool :=
  c.isDigit || ('a' ≤ c && c ≤ 'f') || ('A' ≤ c && c ≤ 'F')

def hexValue (c : Char) : Nat :=
  if c.isDigit then c.toNat - '0'.toNat else c.toLower.toNat - 'a'.toNat + 10

def charOfCode? (code : Nat) : Option Char :=
  if h : code.isValidChar then some (Char.ofNatAux code h) else none

def charOfHex? (digits : List Char) : Option Char :=
  if digits.isEmpty || !digits.all isHexDigit then none
  else charOfCode? (digits.foldl (fun n c => n * 16 + hexValue c) 0)

-- As many characters as asked for.
def someChars (extended : Bool) : Nat → Reader (List Char)
  | 0, chars => some ([], chars)
  | count + 1, chars =>
      match gap extended chars with
      | [] => none
      | c :: rest => (someChars extended count rest).map fun (found, rest) => (c :: found, rest)

-- A code in hexadecimal, with a fixed number of digits or any number of them in braces.
def hexEscape (extended : Bool) (count : Nat) (chars : List Char) :
    Option (Pattern × List Char) := do
  match gap extended chars with
  | '\x7b' :: rest =>
      let (digits, rest) ← braced extended rest
      return (.literal ⟨← charOfHex? digits, false⟩, rest)
  | chars =>
      let (digits, rest) ← someChars extended count chars
      return (.literal ⟨← charOfHex? digits, count == 2⟩, rest)

-- The query for a property: one character or the inside of braces.
def propertyQuery (extended : Bool) : Reader (List Char) := fun chars =>
  match gap extended chars with
  | [] | '\\' :: _ => none
  | '\x7b' :: rest => braced extended rest
  | c :: rest => some ([c], rest)

def namedBoundary? : String → Option Sign
  | "start" => some .wordStart
  | "end" => some .wordEnd
  | "start-half" => some .beforeWord
  | "end-half" => some .afterWord
  | _ => none

-- A word boundary, of a special kind if a name in braces follows. Braces with anything else in
-- them are left for the bounds of a repetition.
def boundary (extended : Bool) : Reader Sign
  | '\x7b' :: rest =>
      match run extended (fun c => c.isAlpha || c == '-') false rest with
      | ([], _) => some (.boundary, '\x7b' :: rest)
      | (name, '\x7d' :: rest) =>
          (namedBoundary? (String.ofList name)).map fun sign => (sign, rest)
      | _ => none
  | chars => some (.boundary, chars)

-- All ASCII characters but letters, digits and angle brackets stand for themselves.
def isEscapable (c : Char) : Bool :=
  c.toNat < 0x80 && !c.isAlphanum && c != '<' && c != '>'

-- What stands behind a backslash.
def escape (extended : Bool) : Reader Pattern
  | [] => none
  | c :: rest =>
      let literal (c : Char) := some (Pattern.literal ⟨c, false⟩, rest)
      let named (negated : Bool) (set : NamedSet) := some (Pattern.named negated set, rest)
      let sign (s : Sign) := some (Pattern.sign s, rest)
      match c with
      | 'x' => hexEscape extended 2 rest
      | 'u' => hexEscape extended 4 rest
      | 'U' => hexEscape extended 8 rest
      | 'p' | 'P' =>
          (propertyQuery extended rest).map fun (query, rest) =>
            (.named (c == 'P') (.property query), rest)
      | 'd' => named false .digit
      | 'D' => named true .digit
      | 's' => named false .space
      | 'S' => named true .space
      | 'w' => named false .word
      | 'W' => named true .word
      | 'a' => literal '\x07'
      | 'f' => literal '\x0C'
      | 't' => literal '\t'
      | 'n' => literal '\n'
      | 'r' => literal '\r'
      | 'v' => literal '\x0B'
      | 'A' => sign .textStart
      | 'z' => sign .textEnd
      | 'b' => (boundary extended rest).map fun (sign, rest) => (.sign sign, rest)
      | 'B' => sign .notBoundary
      | '<' => sign .wordStart
      | '>' => sign .wordEnd
      | c => if isEscapable c then literal c else none

-- The named ASCII classes inside brackets.
def asciiClass? : String → Option CharSet
  | "alnum" => some (.range '0' '9' ∪ .range 'A' 'Z' ∪ .range 'a' 'z')
  | "alpha" => some (.range 'A' 'Z' ∪ .range 'a' 'z')
  | "ascii" => some .ascii
  | "blank" => some (.single '\t' ∪ .single ' ')
  | "cntrl" => some (.range '\x00' '\x1F' ∪ .single '\x7F')
  | "digit" => some (.range '0' '9')
  | "graph" => some (.range '!' '~')
  | "lower" => some (.range 'a' 'z')
  | "print" => some (.range ' ' '~')
  | "punct" => some (.range '!' '/' ∪ .range ':' '@' ∪ .range '[' '\x60' ∪ .range '\x7b' '~')
  | "space" => some .asciiSpace
  | "upper" => some (.range 'A' 'Z')
  | "word" => some .asciiWord
  | "xdigit" => some (.range '0' '9' ∪ .range 'A' 'F' ∪ .range 'a' 'f')
  | _ => none

-- A named class behind its opening bracket. If there is none, the bracket opens a nested class.
def namedClass? (chars : List Char) : Option (ClassItem × List Char) :=
  match chars with
  | ':' :: rest =>
      let (negated, rest) := match rest with
        | '^' :: rest => (true, rest)
        | rest => (false, rest)
      match rest.dropWhile (· != ':') with
      | ':' :: ']' :: behind =>
          (asciiClass? (String.ofList (rest.takeWhile (· != ':')))).map fun set =>
            (.ascii negated set, behind)
      | _ => none
  | _ => none

-- One character or set inside brackets.
def classMember (extended : Bool) : Reader ClassItem
  | [] => none
  | '\\' :: rest => do
      match ← escape extended rest with
      | (.literal l, rest) => return (.literal l, rest)
      | (.named negated set, rest) => return (.named negated set, rest)
      | _ => none
  | c :: rest => some (.literal ⟨c, false⟩, rest)

-- The character that follows, without regard to blanks and to one sign that starts a comment, but
-- not to the comment itself.
def glimpse (extended : Bool) (chars : List Char) : Option Char :=
  if extended then
    let found := match chars.dropWhile Text.isBlank with
      | '#' :: rest => (rest.dropWhile Text.isBlank).head?
      | rest => rest.head?
    found <|> chars.head?
  else chars.head?

-- A member or a range of characters inside brackets. A hyphen makes no range if it comes before
-- a closing bracket or before another hyphen.
def classRange (extended : Bool) (chars : List Char) : Option (ClassItem × List Char) := do
  let (first, rest) ← classMember extended chars
  match gap extended rest with
  | '-' :: behind =>
      if glimpse extended behind = some ']' ∨ glimpse extended behind = some '-' then
        return (first, rest)
      match first, ← classMember extended (gap extended behind) with
      | .literal low, (.literal high, rest) =>
          if low.char ≤ high.char then some (.range low high, rest) else none
      | _, _ => none
  | _ => return (first, rest)

-- The items since the last operator, with what stands before it.
def operand (left : Option (SetOperator × ClassItem)) (items : List ClassItem) : ClassItem :=
  let item := ClassItem.ofList items
  match left with
  | some (op, first) => .operation op first item
  | none => item

-- The inside of brackets up to their end. The items read so far are in reverse order.
def classContent (extended : Bool) (nested : Reader ClassItem) :
    Nat → Option (SetOperator × ClassItem) → List ClassItem → Reader ClassItem
  | 0, _, _, _ => none
  | fuel + 1, left, items, chars =>
      let item := operand left items.reverse
      match gap extended chars with
      | [] => none
      | ']' :: rest => some (item, rest)
      | '&' :: '&' :: rest =>
          classContent extended nested fuel (some (.intersection, item)) [] rest
      | '-' :: '-' :: rest => classContent extended nested fuel (some (.difference, item)) [] rest
      | '~' :: '~' :: rest =>
          classContent extended nested fuel (some (.symmetricDifference, item)) [] rest
      | '[' :: rest => do
          let (inner, rest) ← namedClass? rest <|> nested rest
          classContent extended nested fuel left (inner :: items) rest
      | chars => do
          let (inner, rest) ← classRange extended chars
          classContent extended nested fuel left (inner :: items) rest

-- Hyphens at the start of a class stand for themselves, and so does a closing bracket.
def classStart (extended : Bool) (chars : List Char) : List ClassItem × List Char :=
  match run extended (· == '-') false chars with
  | ([], ']' :: rest) => ([.literal ⟨']', false⟩], rest)
  | (hyphens, rest) => (hyphens.map fun c => .literal ⟨c, false⟩, rest)

-- A class behind its opening bracket.
def brackets (extended : Bool) : Nat → Reader ClassItem
  | 0, _ => none
  | depth + 1, chars => do
      let (negated, chars) := match gap extended chars with
        | '^' :: rest => (true, rest)
        | chars => (false, chars)
      let (items, chars) := classStart extended chars
      let nested := brackets extended depth
      let (content, rest) ← classContent extended nested (chars.length + 1) none items chars
      return (.brackets negated content, rest)

-- A number in the bounds of a repetition, with blanks around it.
def count (extended : Bool) (chars : List Char) : Option (Nat × List Char) :=
  let chars := chars.dropWhile Text.isBlank
  match chars with
  | c :: _ =>
      if c.isDigit then
        let (digits, rest) := run extended Char.isDigit false chars
        let n := digits.foldl (fun n c => n * 10 + (c.toNat - '0'.toNat)) 0
        if n < 2 ^ 32 then some (n, rest.dropWhile Text.isBlank) else none
      else none
  | [] => none

-- The bounds of a repetition behind their opening brace.
def bounds (extended : Bool) (chars : List Char) : Option ((Nat × Option Nat) × List Char) := do
  let (least, rest) ← count extended (gap extended chars)
  match rest with
  | '\x7d' :: rest => return ((least, some least), rest)
  | ',' :: rest =>
      match gap extended rest with
      | '\x7d' :: rest => return ((least, none), rest)
      | rest => do
          let (most, rest) ← count extended rest
          match rest with
          | '\x7d' :: rest => if least ≤ most then some ((least, some most), rest) else none
          | _ => none
  | _ => none

-- A question mark behind a repetition asks for few rounds instead of many.
def skipLazy : List Char → List Char
  | '?' :: rest => rest
  | chars => chars

-- A repetition, if one starts here: how often, or nothing if it is not valid.
def repetition? (extended : Bool) :
    List Char → Option (Option ((Nat × Option Nat) × List Char))
  | '*' :: rest => some (some ((0, none), skipLazy rest))
  | '+' :: rest => some (some ((1, none), skipLazy rest))
  | '?' :: rest => some (some ((0, some 1), skipLazy rest))
  | '\x7b' :: rest =>
      some ((bounds extended rest).map fun (found, rest) => (found, skipLazy (gap extended rest)))
  | _ => none

-- The flags behind `(?`: whether a group follows, and which flags change. A flag or the minus sign
-- may stand only once.
def flags (value : Bool) (seen : List Char) (changes : List (Flag × Bool)) :
    Reader (Bool × List (Flag × Bool))
  | [] => none
  | ')' :: rest =>
      if seen.isEmpty ∨ seen.head? = some '-' then none
      else some ((false, changes.reverse), rest)
  | ':' :: rest => if seen.head? = some '-' then none else some ((true, changes.reverse), rest)
  | c :: rest =>
      if c ∈ seen then none
      else if c = '-' then flags false (c :: seen) changes rest
      else do flags value (c :: seen) ((← Flag.ofChar? c, value) :: changes) rest

def isGroupNameChar (c : Char) : Bool :=
  c == '_' || c == '.' || c == '[' || c == ']' || Text.isAlphanumeric c

-- The name of a group up to the closing angle bracket.
def groupName (chars : List Char) : Option (String × List Char) :=
  let name := chars.takeWhile isGroupNameChar
  match name, chars.dropWhile isGroupNameChar with
  | first :: _, '>' :: rest =>
      if first == '_' || Text.isAlphabetic first then some (String.ofList name, rest) else none
  | _, _ => none

-- What an opening parenthesis starts.
inductive Opening
  | group (name : Option String)
  | scope (changes : List (Flag × Bool))
  | flags (changes : List (Flag × Bool))

-- Looking around is not supported.
def opening (extended : Bool) (chars : List Char) : Option (Opening × List Char) :=
  match gap extended chars with
  | '?' :: '=' :: _ | '?' :: '!' :: _ | '?' :: '<' :: '=' :: _ | '?' :: '<' :: '!' :: _ => none
  | '?' :: 'P' :: '<' :: rest | '?' :: '<' :: rest =>
      (groupName rest).map fun (name, rest) => (.group (some name), rest)
  | '?' :: rest =>
      (flags true [] [] rest).map fun ((isGroup, changes), rest) =>
        (if isGroup then .scope changes else .flags changes, rest)
  | rest => some (.group none, rest)

-- Whether the extended mode is on, and the group names used so far.
structure State where
  extended : Bool
  names : List String

namespace State

def change (state : State) (changes : List (Flag × Bool)) : State :=
  { state with extended := (changes.lookup .extended).getD state.extended }

-- No two groups have the same name.
def name? (state : State) : Option String → Option State
  | some name =>
      if state.names.contains name then none
      else some { state with names := name :: state.names }
  | none => some state

end State

-- A part that is not in parentheses.
def atom (extended : Bool) : Reader Pattern
  | [] => none
  | '.' :: rest => some (.dot, rest)
  | '^' :: rest => some (.sign .lineStart, rest)
  | '$' :: rest => some (.sign .lineEnd, rest)
  | '\\' :: rest => escape extended rest
  | '[' :: rest => do
      match ← brackets extended (Pattern.maxDepth + 1) rest with
      | (.brackets negated content, rest) => return (.brackets negated content, rest)
      | _ => none
  | c :: rest => some (.literal ⟨c, false⟩, rest)

-- A repetition needs something to repeat.
def repeatLast (least : Nat) (most : Option Nat) : List Pattern → Option (List Pattern)
  | [] | .flags _ :: _ => none
  | last :: parts => some (.repeated last least most :: parts)

-- The inside of a group up to its end or to that of the pattern.
abbrev GroupReader := State → List Char → Option (Pattern × State × List Char)

-- A group with its end. Flags that change inside it are left behind.
def closedGroup (nested : GroupReader) (outer inner : State) (chars : List Char) :
    Option (Pattern × State × List Char) := do
  match ← nested inner chars with
  | (content, behind, ')' :: rest) => return (content, { outer with names := behind.names }, rest)
  | _ => none

-- One alternative. The parts read so far are in reverse order.
def alternative (nested : GroupReader) :
    Nat → State → List Pattern → List Char → Option (Pattern × State × List Char)
  | 0, _, _, _ => none
  | fuel + 1, state, parts, chars =>
      let chars := gap state.extended chars
      match repetition? state.extended chars with
      | some found => do
          let ((least, most), rest) ← found
          alternative nested fuel state (← repeatLast least most parts) rest
      | none =>
          match chars with
          | [] | '|' :: _ | ')' :: _ => some (.ofSequence parts.reverse, state, chars)
          | '(' :: rest => do
              let (opened, rest) ← opening state.extended rest
              match opened with
              | .flags changes =>
                  alternative nested fuel (state.change changes) (.flags changes :: parts) rest
              | .scope changes => do
                  let (content, state, rest) ← closedGroup nested state (state.change changes) rest
                  alternative nested fuel state (.scope changes content :: parts) rest
              | .group name => do
                  let (content, state, rest) ← closedGroup nested state (← state.name? name) rest
                  alternative nested fuel state (.group content :: parts) rest
          | chars => do
              let (part, rest) ← atom state.extended chars
              alternative nested fuel state (part :: parts) rest

-- Alternatives up to the end of the pattern or of the group. Those read so far are in reverse
-- order.
def choiceContent (nested : GroupReader) : Nat → List Pattern → GroupReader
  | 0, _, _, _ => none
  | fuel + 1, parts, state, chars => do
      let (part, state, rest) ← alternative nested (fuel + 1) state [] chars
      match rest with
      | '|' :: rest => choiceContent nested fuel (part :: parts) state rest
      | rest => return (.ofChoice (part :: parts).reverse, state, rest)

-- Groups that are nested too deep are not read.
def groupContent : Nat → GroupReader
  | 0, _, _ => none
  | depth + 1, state, chars =>
      choiceContent (groupContent depth) (chars.length + 1) [] state chars

namespace Pattern

def ofText? (text : List Char) : Option Pattern :=
  match groupContent (maxDepth + 1) ⟨false, []⟩ text with
  | some (pattern, _, []) => if pattern.depth ≤ maxDepth then some pattern else none
  | _ => none

end Pattern

end EventText.Regex
