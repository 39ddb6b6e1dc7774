import EventText.Expr.Lowering
import EventText.Template.Binding

namespace EventText

-- A template ready to be rendered. The properties that events always have are shown in their own
-- ways when a hole holds nothing else.
inductive Node
  | literal (chars : List Char)
  | expression (plan : Plan) (format : Option String) (alignment : Option Alignment)
  | level (format : Option String) (alignment : Option Alignment)
  | timestamp (format : Option String) (alignment : Option Alignment)
  | message (alignment : Option Alignment)
  | exception
  | sequence (nodes : List Node)
  | choice (branches : List (Plan × Node)) (otherwise : Option Node)
  | iteration (collection : Plan) (first : Nat) (second : Option Nat) (body : Node)
      (delimiter alternative : Option Node)

namespace Node

-- A single node needs no sequence around it.
def ofList : List Node → Node
  | [node] => node
  | nodes => .sequence nodes

mutual

def count : Node → Nat
  | .sequence nodes => 1 + countAll nodes
  | .choice branches otherwise => 1 + countBranches branches + countSection otherwise
  | .iteration _ _ _ body delimiter alternative =>
      1 + body.count + countSection delimiter + countSection alternative
  | _ => 1

def countAll : List Node → Nat
  | [] => 0
  | node :: rest => node.count + countAll rest

def countBranches : List (Plan × Node) → Nat
  | [] => 0
  | (_, node) :: rest => node.count + countBranches rest

def countSection : Option Node → Nat
  | none => 0
  | some node => node.count

end

end Node

namespace Block

mutual

-- The event properties that a bound template names.
def references : Block BoundName → List String
  | .text _ => []
  | .placeholder hole => hole.expression.references
  | .choice branches otherwise _ => referencesBranches branches ++ referencesSection otherwise
  | .iteration _ _ collection body delimiter alternative _ =>
      collection.references ++ referencesAll body ++ referencesSection delimiter
        ++ referencesSection alternative

def referencesAll : List (Block BoundName) → List String
  | [] => []
  | block :: rest => references block ++ referencesAll rest

def referencesSection : Option (List (Block BoundName)) → List String
  | none => []
  | some blocks => referencesAll blocks

def referencesBranches : List (Expr × List (Block BoundName)) → List String
  | [] => []
  | (condition, blocks) :: rest =>
      condition.references ++ referencesAll blocks ++ referencesBranches rest

end

end Block

namespace Surroundings

def lowerPlaceholder (within : Surroundings) (hole : Placeholder) (next : Nat) :
    Except TemplateError (Node × Nat) :=
  match hole.expression with
  | .builtin .timestamp => .ok (.timestamp hole.format hole.alignment, next)
  | .builtin .level => .ok (.level hole.format hole.alignment, next)
  | .builtin .message => .ok (.message hole.alignment, next)
  | .builtin .exception => .ok (.exception, next)
  | e => do
      let (plan, next) ← within.lower e next
      return (.expression plan hole.format hole.alignment, next)

mutual

def lowerBlock (within : Surroundings) (next : Nat) :
    Block BoundName → Except TemplateError (Node × Nat)
  | .text chars => .ok (.literal chars, next)
  | .placeholder hole => within.lowerPlaceholder hole next
  | .choice branches otherwise _ => do
      let (branches, next) ← within.lowerBranches next branches
      let (otherwise, next) ← within.lowerSection next otherwise
      return (.choice branches otherwise, next)
  | .iteration first second collection body delimiter alternative _ => do
      let (collection, next) ← within.lower collection next
      let (body, next) ← within.lowerBlocks next body
      let (delimiter, next) ← within.lowerSection next delimiter
      let (alternative, next) ← within.lowerSection next alternative
      return (.iteration collection first.slot (second.map (·.slot)) (Node.ofList body) delimiter
        alternative, next)

def lowerBlocks (within : Surroundings) (next : Nat) :
    List (Block BoundName) → Except TemplateError (List Node × Nat)
  | [] => .ok ([], next)
  | block :: rest => do
      let (node, next) ← within.lowerBlock next block
      let (nodes, next) ← within.lowerBlocks next rest
      return (node :: nodes, next)

def lowerSection (within : Surroundings) (next : Nat) :
    Option (List (Block BoundName)) → Except TemplateError (Option Node × Nat)
  | none => .ok (none, next)
  | some blocks => do
      let (nodes, next) ← within.lowerBlocks next blocks
      return (some (Node.ofList nodes), next)

def lowerBranches (within : Surroundings) (next : Nat) :
    List (Expr × List (Block BoundName)) → Except TemplateError (List (Plan × Node) × Nat)
  | [] => .ok ([], next)
  | (condition, blocks) :: rest => do
      let (condition, next) ← within.lower condition next
      let (nodes, next) ← within.lowerBlocks next blocks
      let (branches, next) ← within.lowerBranches next rest
      return ((condition, Node.ofList nodes) :: branches, next)

end

end Surroundings

-- Lowers a bound template. `rest()` leaves out every property that the template names anywhere.
def BoundTemplate.lower (bound : BoundTemplate) (resolver : Resolver) :
    Except TemplateError Node := do
  let within := Surroundings.mk resolver (Block.referencesAll bound.blocks)
  let (nodes, _) ← within.lowerBlocks bound.slotCount bound.blocks
  return Node.ofList nodes

end EventText
