import EventText.Expr.Plan
import EventText.Expr.Reader
import EventText.Expr.References

namespace EventText

namespace Expr

-- A part of an expression that ranges over the elements of a collection: how, over which one,
-- and the part again with the element's slot in the place of the wildcard.
structure Pulled (α : Type) where
  quantifier : Quantifier
  collection : Expr
  body : α

def Pulled.map (f : α → β) (p : Pulled α) : Pulled β := ⟨p.quantifier, p.collection, f p.body⟩

-- The first wildcard that a path applies.
def pull (n : Nat) : Expr → Option (Pulled Expr)
  | .wildcard target q =>
      match pull n target with
      | some p => some (p.map fun body => .wildcard body q)
      | none => some ⟨q, target, .slot n⟩
  | .member target name => (pull n target).map (·.map fun body => .member body name)
  | .index target key => (pull n target).map (·.map fun body => .index body key)
  | _ => none

-- The first wildcard on the path of the first expression that has one.
def pullFirst (n : Nat) : List Expr → Option (Pulled (List Expr))
  | [] => none
  | e :: rest =>
      match pull n e with
      | some p => some (p.map fun body => body :: rest)
      | none => (pullFirst n rest).map (·.map fun bodies => e :: bodies)

def pullEither (n : Nat) (left right : Expr) : Option (Pulled (Expr × Expr)) :=
  match pull n left with
  | some p => some (p.map fun body => (body, right))
  | none => (pull n right).map (·.map fun body => (left, body))

mutual

-- The number of nodes. A slot is one node whatever its number is.
def size : Expr → Nat
  | .constant _ | .property _ | .builtin _ | .slot _ => 1
  | .member target _ => target.size + 1
  | .index target key => target.size + key.size + 1
  | .wildcard target _ => target.size + 1
  | .call _ arguments _ _ => sizeAll arguments + 1
  | .unary _ operand => operand.size + 1
  | .binary _ left right _ _ => left.size + right.size + 1
  | .conditional condition consequent none => condition.size + consequent.size + 1
  | .conditional condition consequent (some alternative) =>
      condition.size + consequent.size + alternative.size + 1
  | .array elements => sizeElements elements + 1
  | .object members => sizeMembers members + 1

def sizeAll : List Expr → Nat
  | [] => 0
  | e :: rest => e.size + sizeAll rest + 1

def sizeElements : List (Element Expr) → Nat
  | [] => 0
  | .item e :: rest => e.size + sizeElements rest + 1
  | .spread e :: rest => e.size + sizeElements rest + 1

def sizeMembers : List (Member Expr) → Nat
  | [] => 0
  | .named _ e :: rest => e.size + sizeMembers rest + 1
  | .spread e :: rest => e.size + sizeMembers rest + 1

end

theorem size_pos (e : Expr) : 0 < e.size := by
  cases e with
  | conditional condition consequent alternative => cases alternative <;> simp [size]
  | _ => simp [size]

-- Pulling a wildcard out leaves less on both sides.
theorem size_pull {n : Nat} {e : Expr} {p : Pulled Expr} (h : pull n e = some p) :
    p.collection.size < e.size ∧ p.body.size < e.size := by
  fun_induction pull n e generalizing p with
  | case1 target q inner hinner ih =>
      simp only [Option.some.injEq] at h
      subst h
      have := ih hinner
      simp only [Pulled.map, size]
      omega
  | case2 target q hinner =>
      simp only [Option.some.injEq] at h
      subst h
      have := size_pos target
      simp only [size]
      omega
  | case3 target name ih =>
      obtain ⟨inner, hinner, rfl⟩ := Option.map_eq_some_iff.mp h
      have := ih hinner
      simp only [Pulled.map, size]
      omega
  | case4 target key ih =>
      obtain ⟨inner, hinner, rfl⟩ := Option.map_eq_some_iff.mp h
      have := ih hinner
      simp only [Pulled.map, size]
      omega
  | case5 => cases h

theorem size_pullFirst {n : Nat} {es : List Expr} {p : Pulled (List Expr)}
    (h : pullFirst n es = some p) :
    p.collection.size < sizeAll es ∧ sizeAll p.body < sizeAll es := by
  fun_induction pullFirst n es generalizing p with
  | case1 => cases h
  | case2 e rest inner hinner =>
      simp only [Option.some.injEq] at h
      subst h
      have := size_pull hinner
      simp only [Pulled.map, sizeAll]
      omega
  | case3 e rest hnone ih =>
      obtain ⟨inner, hinner, rfl⟩ := Option.map_eq_some_iff.mp h
      have := ih hinner
      simp only [Pulled.map, sizeAll]
      omega

theorem size_pullEither {n : Nat} {left right : Expr} {p : Pulled (Expr × Expr)}
    (h : pullEither n left right = some p) :
    p.collection.size < left.size + right.size ∧
      p.body.1.size + p.body.2.size < left.size + right.size := by
  unfold pullEither at h
  split at h
  · rename_i inner hinner
    simp only [Option.some.injEq] at h
    subst h
    have := size_pull hinner
    simp only [Pulled.map]
    omega
  · obtain ⟨inner, hinner, rfl⟩ := Option.map_eq_some_iff.mp h
    have := size_pull hinner
    simp only [Pulled.map]
    omega

end Expr

-- What lowering needs to know: the caller's functions, and the names that `rest()` leaves out.
structure Surroundings where
  resolver : Resolver
  referenced : List String

namespace Surroundings

-- `rest()` is no function but stands for the properties that are not used otherwise.
def isRest (name : String) (arguments : List Expr) (ignoreCase : Bool) : Bool :=
  arguments.isEmpty && !ignoreCase && Text.sameIgnoringAsciiCase name "rest"

-- Lowering hands out slots: `next` is the first one that is free.

mutual

def lower (within : Surroundings) (e : Expr) (next : Nat) : Except TemplateError (Plan × Nat) :=
  match e with
  | .constant s => .ok (.constant (.scalar s), next)
  | .property name => .ok (.property name, next)
  | .builtin p => .ok (.builtin p, next)
  | .slot n => .ok (.slot n, next)
  | .member (.builtin .properties) name => .ok (.property name, next)
  | .index (.builtin .properties) (.constant (.string name)) => .ok (.property name, next)
  | .member target name =>
      match h : Expr.pull next target with
      | some p => do
          have := Expr.size_pull h
          let (collection, after) ← within.lower p.collection (next + 1)
          let (body, after) ← within.lower (.member p.body name) after
          return (.quantified p.quantifier collection next body, after)
      | none => do
          let (target, next) ← within.lower target next
          return (.member target name, next)
  | .index target key =>
      match h : Expr.pull next target with
      | some p => do
          have := Expr.size_pull h
          let (collection, after) ← within.lower p.collection (next + 1)
          let (body, after) ← within.lower (.index p.body key) after
          return (.quantified p.quantifier collection next body, after)
      | none => do
          let (target, next) ← within.lower target next
          let (key, next) ← within.lower key next
          return (.index target key, next)
  | .wildcard target q =>
      match h : Expr.pull next target with
      | some p => do
          have := Expr.size_pull h
          let (collection, after) ← within.lower p.collection (next + 1)
          let (body, after) ← within.lower (.wildcard p.body q) after
          return (.quantified p.quantifier collection next body, after)
      | none => do
          let (collection, after) ← within.lower target (next + 1)
          return (.quantified q collection next (.slot next), after)
  | .call name arguments ignoreCase position =>
      match h : Expr.pullFirst next arguments with
      | some p => do
          have := Expr.size_pullFirst h
          let (collection, after) ← within.lower p.collection (next + 1)
          let (body, after) ← within.lower (.call name p.body ignoreCase position) after
          return (.quantified p.quantifier collection next body, after)
      | none => do
          if isRest name arguments ignoreCase then return (.remaining within.referenced, next)
          let f ← Function.resolve within.resolver name arguments.length ignoreCase position
          let (arguments, next) ← within.lowerAll arguments next
          return (.call f arguments ignoreCase, next)
  | .unary op operand =>
      match h : Expr.pull next operand with
      | some p => do
          have := Expr.size_pull h
          let (collection, after) ← within.lower p.collection (next + 1)
          let (body, after) ← within.lower (.unary op p.body) after
          return (.quantified p.quantifier collection next body, after)
      | none => do
          let (operand, next) ← within.lower operand next
          return (.unary op operand, next)
  | .binary op left right ignoreCase position =>
      match h : Expr.pullEither next left right with
      | some p => do
          have := Expr.size_pullEither h
          let (collection, after) ← within.lower p.collection (next + 1)
          let (body, after) ←
            within.lower (.binary op p.body.1 p.body.2 ignoreCase position) after
          return (.quantified p.quantifier collection next body, after)
      | none => do
          let (left, next) ← within.lower left next
          let (right, next) ← within.lower right next
          return (.binary op left right ignoreCase, next)
  | .conditional condition consequent none => do
      let (condition, next) ← within.lower condition next
      let (consequent, next) ← within.lower consequent next
      return (.conditional condition consequent none, next)
  | .conditional condition consequent (some alternative) => do
      let (condition, next) ← within.lower condition next
      let (consequent, next) ← within.lower consequent next
      let (alternative, next) ← within.lower alternative next
      return (.conditional condition consequent (some alternative), next)
  | .array elements => do
      let (elements, next) ← within.lowerElements elements next
      return (.array elements, next)
  | .object members => do
      let (members, next) ← within.lowerMembers members next
      return (.object members, next)
termination_by e.size
decreasing_by all_goals simp_all only [Expr.size]; omega

def lowerAll (within : Surroundings) (es : List Expr) (next : Nat) :
    Except TemplateError (List Plan × Nat) :=
  match es with
  | [] => .ok ([], next)
  | e :: rest => do
      let (plan, next) ← within.lower e next
      let (plans, next) ← within.lowerAll rest next
      return (plan :: plans, next)
termination_by Expr.sizeAll es
decreasing_by all_goals simp_all only [Expr.sizeAll]; omega

def lowerElements (within : Surroundings) (elements : List (Element Expr)) (next : Nat) :
    Except TemplateError (List (Element Plan) × Nat) :=
  match elements with
  | [] => .ok ([], next)
  | .item e :: rest => do
      let (plan, next) ← within.lower e next
      let (plans, next) ← within.lowerElements rest next
      return (.item plan :: plans, next)
  | .spread e :: rest => do
      let (plan, next) ← within.lower e next
      let (plans, next) ← within.lowerElements rest next
      return (.spread plan :: plans, next)
termination_by Expr.sizeElements elements
decreasing_by all_goals simp_all only [Expr.sizeElements]; omega

def lowerMembers (within : Surroundings) (members : List (Member Expr)) (next : Nat) :
    Except TemplateError (List (Member Plan) × Nat) :=
  match members with
  | [] => .ok ([], next)
  | .named name e :: rest => do
      let (plan, next) ← within.lower e next
      let (plans, next) ← within.lowerMembers rest next
      return (.named name plan :: plans, next)
  | .spread e :: rest => do
      let (plan, next) ← within.lower e next
      let (plans, next) ← within.lowerMembers rest next
      return (.spread plan :: plans, next)
termination_by Expr.sizeMembers members
decreasing_by all_goals simp_all only [Expr.sizeMembers]; omega

end

end Surroundings

-- An expression with everything outside it found, ready for any number of events.
def Plan.read (source : String) (resolver : Resolver) : Except TemplateError Plan := do
  let e ← Expr.read source
  let (plan, _) ← (Surroundings.mk resolver e.references).lower e 0
  return plan

end EventText
