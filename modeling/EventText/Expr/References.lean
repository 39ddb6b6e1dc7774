import EventText.Expr.Basic

namespace EventText

-- The event properties that an expression names: plain names, and members of `@p` whose names
-- are written out.
def Expr.ownReference : Expr → List String
  | .property name => [name]
  | .member (.builtin .properties) name => [name]
  | .index (.builtin .properties) (.constant (.string name)) => [name]
  | _ => []

mutual

def Expr.references (e : Expr) : List String :=
  e.ownReference ++
    match e with
    | .constant _ | .property _ | .builtin _ | .slot _ => []
    | .member target _ => target.references
    | .index target key => target.references ++ key.references
    | .wildcard target _ => target.references
    | .call _ arguments _ _ => Expr.referencesAll arguments
    | .unary _ operand => operand.references
    | .binary _ left right _ _ => left.references ++ right.references
    | .conditional condition consequent none => condition.references ++ consequent.references
    | .conditional condition consequent (some alternative) =>
        condition.references ++ consequent.references ++ alternative.references
    | .array elements => Expr.referencesElements elements
    | .object members => Expr.referencesMembers members

def Expr.referencesAll : List Expr → List String
  | [] => []
  | e :: rest => e.references ++ Expr.referencesAll rest

def Expr.referencesElements : List (Element Expr) → List String
  | [] => []
  | .item e :: rest => e.references ++ Expr.referencesElements rest
  | .spread e :: rest => e.references ++ Expr.referencesElements rest

def Expr.referencesMembers : List (Member Expr) → List String
  | [] => []
  | .named _ e :: rest => e.references ++ Expr.referencesMembers rest
  | .spread e :: rest => e.references ++ Expr.referencesMembers rest

end

-- The names of a collection in order, each once.
def sortedNames (names : List String) : List String :=
  names.eraseDups.mergeSort fun a b => decide (a ≤ b)

end EventText
