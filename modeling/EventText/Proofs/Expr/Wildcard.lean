import EventText.Proofs.Expr.Evaluation

namespace EventText

-- Paths with wildcards: `C[k1]s1...[kn]sn`, where each `k` is a wildcard and each `s` a chain of
-- accessors without one.

inductive Accessor
  | member (name : String)
  | index (key : Expr)

namespace Accessor

def extend (target : Expr) : Accessor → Expr
  | member name => .member target name
  | index key => .index target key

variable (within : Surroundings) (env : Environment)

def follow (o : Outcome) : Accessor → Outcome
  | member name => o.project (Value.member? name)
  | index key => o.element (key.meaning within env)

end Accessor

structure Segment where
  quantifier : Quantifier
  accessors : List Accessor

namespace Segment

def extend (target : Expr) (segment : Segment) : Expr :=
  segment.accessors.foldl Accessor.extend (.wildcard target segment.quantifier)

def path (root : Expr) (segments : List Segment) : Expr := segments.foldl extend root

variable (within : Surroundings) (env : Environment)

-- What an element has behind it on the path, up to the next wildcard.
def follow (segment : Segment) (element : Value) : Outcome :=
  segment.accessors.foldl (Accessor.follow within env) (.ofValue element)

-- Whether an operation is true at the ends of a path, as the wildcards on it range one inside the
-- other. What is no collection has no elements for which it could be true.
def holds (operation : Outcome → Outcome) : List Segment → Outcome → Bool
  | [], o => (operation o).isTrue
  | segment :: rest, o =>
      match o.value?.bind Value.elements? with
      | some elements => segment.quantifier.holds elements fun element =>
          holds operation rest (segment.follow within env element)
      | none => false

end Segment

-- Where a path stands: alone, or as an operand or an argument.
inductive Position
  | alone
  | operand (op : UnaryOp)
  | left (op : BinaryOp) (right : Expr) (ignoreCase : Bool) (position : Nat)
  | right (op : BinaryOp) (left : Expr) (ignoreCase : Bool) (position : Nat)
  | argument (name : String) (before after : List Expr) (ignoreCase : Bool) (position : Nat)

namespace Position

-- The expressions that stand beside the path.
def others : Position → List Expr
  | alone | operand _ => []
  | left _ other _ _ | right _ other _ _ => [other]
  | argument _ before after _ _ => before ++ after

def around (path : Expr) : Position → Expr
  | alone => path
  | operand op => .unary op path
  | left op other ignoreCase position => .binary op path other ignoreCase position
  | right op other ignoreCase position => .binary op other path ignoreCase position
  | argument name before after ignoreCase position =>
      .call name (before ++ path :: after) ignoreCase position

-- The operation that the path is the operand of.
def apply (within : Surroundings) (env : Environment) (o : Outcome) : Position → Outcome
  | alone => o
  | operand op => op.apply o
  | left op other ignoreCase _ => op.apply ignoreCase o (other.meaning within env)
  | right op other ignoreCase _ => op.apply ignoreCase (other.meaning within env) o
  | argument name before after ignoreCase _ =>
      within.call env name ignoreCase
        (before.map (Expr.meaning within env) ++ o :: after.map (Expr.meaning within env))

end Position

section

variable {within : Surroundings} {env : Environment}

namespace Segment

-- The same as `holds`, with the outcome that each wildcard has on its own.
private def ranged (within : Surroundings) (env : Environment) (operation : Outcome → Outcome) :
    List Segment → Outcome → Outcome
  | [], o => operation o
  | segment :: rest, o => segment.quantifier.over o fun element =>
      ranged within env operation rest
        (segment.accessors.foldl (Accessor.follow within env) element)

end Segment

namespace Position

end Position

end

end EventText
