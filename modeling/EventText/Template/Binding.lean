import EventText.Template.Block

namespace EventText

-- An iteration name with the slot that holds its value.
structure BoundName where
  name : String
  slot : Nat
deriving DecidableEq

-- The names that are visible at a place, innermost first.
abbrev Names := List BoundName

def Names.slot? (names : Names) (name : String) : Option Nat :=
  (names.find? fun bound => bound.name == name).map (·.slot)

mutual

-- Visible names become slots, all other names stay properties of the event.
def Expr.bind (names : Names) : Expr → Expr
  | .property name =>
      match names.slot? name with
      | some n => .slot n
      | none => .property name
  | .constant s => .constant s
  | .builtin p => .builtin p
  | .slot n => .slot n
  | .member target name => .member (target.bind names) name
  | .index target key => .index (target.bind names) (key.bind names)
  | .wildcard target q => .wildcard (target.bind names) q
  | .call name arguments ignoreCase position =>
      .call name (Expr.bindAll names arguments) ignoreCase position
  | .unary op operand => .unary op (operand.bind names)
  | .binary op left right ignoreCase position =>
      .binary op (left.bind names) (right.bind names) ignoreCase position
  | .conditional condition consequent none =>
      .conditional (condition.bind names) (consequent.bind names) none
  | .conditional condition consequent (some alternative) =>
      .conditional (condition.bind names) (consequent.bind names)
        (some (alternative.bind names))
  | .array elements => .array (Expr.bindElements names elements)
  | .object members => .object (Expr.bindMembers names members)

def Expr.bindAll (names : Names) : List Expr → List Expr
  | [] => []
  | e :: rest => e.bind names :: Expr.bindAll names rest

def Expr.bindElements (names : Names) : List (Element Expr) → List (Element Expr)
  | [] => []
  | .item e :: rest => .item (e.bind names) :: Expr.bindElements names rest
  | .spread e :: rest => .spread (e.bind names) :: Expr.bindElements names rest

def Expr.bindMembers (names : Names) : List (Member Expr) → List (Member Expr)
  | [] => []
  | .named name e :: rest => .named name (e.bind names) :: Expr.bindMembers names rest
  | .spread e :: rest => .spread (e.bind names) :: Expr.bindMembers names rest

end

namespace Block

-- The names of an iteration with fresh slots, in the order in which they are written.
def freshNames (first : String) (second : Option String) (next : Nat) :
    BoundName × Option BoundName × Nat :=
  match second with
  | none => (⟨first, next⟩, none, next + 1)
  | some second => (⟨first, next⟩, some ⟨second, next + 1⟩, next + 2)

def visible (first : BoundName) (second : Option BoundName) (names : Names) : Names :=
  second.toList ++ first :: names

mutual

-- Binds names and hands out slots in the order of the source. The collection and the alternative
-- of an iteration stand outside the scope of its names, the body and the delimiter inside.
def bind (names : Names) (next : Nat) : Block String → Block BoundName × Nat
  | .text chars => (.text chars, next)
  | .placeholder hole =>
      (.placeholder { hole with expression := hole.expression.bind names }, next)
  | .choice branches otherwise position =>
      let (branches, next) := bindBranches names next branches
      let (otherwise, next) := bindSection names next otherwise
      (.choice branches otherwise position, next)
  | .iteration first second collection body delimiter alternative position =>
      let (first, second, next) := freshNames first second next
      let inner := visible first second names
      let (body, next) := bindAll inner next body
      let (delimiter, next) := bindSection inner next delimiter
      let (alternative, next) := bindSection names next alternative
      (.iteration first second (collection.bind names) body delimiter alternative position, next)

def bindAll (names : Names) (next : Nat) :
    List (Block String) → List (Block BoundName) × Nat
  | [] => ([], next)
  | block :: rest =>
      let (block, next) := bind names next block
      let (rest, next) := bindAll names next rest
      (block :: rest, next)

def bindSection (names : Names) (next : Nat) :
    Option (List (Block String)) → Option (List (Block BoundName)) × Nat
  | none => (none, next)
  | some blocks =>
      let (blocks, next) := bindAll names next blocks
      (some blocks, next)

def bindBranches (names : Names) (next : Nat) :
    List (Expr × List (Block String)) → List (Expr × List (Block BoundName)) × Nat
  | [] => ([], next)
  | (condition, blocks) :: rest =>
      let (blocks, next) := bindAll names next blocks
      let (rest, next) := bindBranches names next rest
      ((condition.bind names, blocks) :: rest, next)

end

end Block

-- A nested template whose names are bound, with the number of slots that they take.
structure BoundTemplate where
  blocks : List (Block BoundName)
  slotCount : Nat

def BoundTemplate.ofPieces (pieces : List Piece) : Except TemplateError BoundTemplate := do
  let (blocks, slotCount) := Block.bindAll [] 0 (← Block.nest pieces)
  return { blocks, slotCount }

end EventText
