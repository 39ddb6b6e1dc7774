import EventText.Proofs.Expr.Parts

namespace EventText

namespace Expr

mutual

-- The same expression with other positions in its operators and calls.
def mapPositions (f : Nat → Nat) : Expr → Expr
  | .constant s => .constant s
  | .property name => .property name
  | .builtin p => .builtin p
  | .slot n => .slot n
  | .member target name => .member (target.mapPositions f) name
  | .index target key => .index (target.mapPositions f) (key.mapPositions f)
  | .wildcard target q => .wildcard (target.mapPositions f) q
  | .call name arguments ignoreCase position =>
      .call name (mapPositionsAll f arguments) ignoreCase (f position)
  | .unary op operand => .unary op (operand.mapPositions f)
  | .binary op left right ignoreCase position =>
      .binary op (left.mapPositions f) (right.mapPositions f) ignoreCase (f position)
  | .conditional condition consequent none =>
      .conditional (condition.mapPositions f) (consequent.mapPositions f) none
  | .conditional condition consequent (some alternative) =>
      .conditional (condition.mapPositions f) (consequent.mapPositions f)
        (some (alternative.mapPositions f))
  | .array elements => .array (mapPositionsElements f elements)
  | .object members => .object (mapPositionsMembers f members)

def mapPositionsAll (f : Nat → Nat) : List Expr → List Expr
  | [] => []
  | e :: rest => e.mapPositions f :: mapPositionsAll f rest

def mapPositionsElements (f : Nat → Nat) : List (Element Expr) → List (Element Expr)
  | [] => []
  | .item e :: rest => .item (e.mapPositions f) :: mapPositionsElements f rest
  | .spread e :: rest => .spread (e.mapPositions f) :: mapPositionsElements f rest

def mapPositionsMembers (f : Nat → Nat) : List (Member Expr) → List (Member Expr)
  | [] => []
  | .named name e :: rest => .named name (e.mapPositions f) :: mapPositionsMembers f rest
  | .spread e :: rest => .spread (e.mapPositions f) :: mapPositionsMembers f rest

end

@[simp] theorem mapPositionsAll_eq_map (f : Nat → Nat) (es : List Expr) :
    mapPositionsAll f es = es.map (mapPositions f) := by
  induction es with
  | nil => rfl
  | cons e rest ih => rw [mapPositionsAll, ih, List.map_cons]

@[simp] theorem mapPositionsElements_eq_map (f : Nat → Nat) (elements : List (Element Expr)) :
    mapPositionsElements f elements = elements.map (Element.map (mapPositions f)) := by
  induction elements with
  | nil => rfl
  | cons element rest ih =>
      cases element <;> rw [mapPositionsElements, ih, List.map_cons, Element.map]

@[simp] theorem mapPositionsMembers_eq_map (f : Nat → Nat) (members : List (Member Expr)) :
    mapPositionsMembers f members = members.map (Member.map (mapPositions f)) := by
  induction members with
  | nil => rfl
  | cons member rest ih =>
      cases member <;> rw [mapPositionsMembers, ih, List.map_cons, Member.map]

@[simp] theorem mapPositions_conditional (f : Nat → Nat) (condition consequent : Expr)
    (alternative : Option Expr) :
    (conditional condition consequent alternative).mapPositions f =
      .conditional (condition.mapPositions f) (consequent.mapPositions f)
        (alternative.map (mapPositions f)) := by
  cases alternative <;> simp only [mapPositions, Option.map_none, Option.map_some]

theorem mapPositions_id (e : Expr) : e.mapPositions (fun n => n) = e := by
  induction e using childInduction with
  | step e ih =>
    have hmap {α : Type} {f : α → α} (xs : List α) (h : ∀ x ∈ xs, f x = x) : xs.map f = xs :=
      (List.map_congr_left h).trans (List.map_id' xs)
    cases e with
    | call name arguments ignoreCase position =>
      rw [mapPositions, mapPositionsAll_eq_map, hmap arguments ih]
    | conditional condition consequent alternative =>
      cases alternative <;> simp_all [children]
    | array elements =>
      rw [mapPositions, mapPositionsElements_eq_map, hmap elements fun element h => ?_]
      have := ih element.content (List.mem_map_of_mem h)
      cases element <;> simp_all [Element.map, Element.content]
    | object members =>
      rw [mapPositions, mapPositionsMembers_eq_map, hmap members fun member h => ?_]
      have := ih member.content (List.mem_map_of_mem h)
      cases member <;> simp_all [Member.map, Member.content]
    | _ => simp_all [mapPositions, children]

-- What is left of an expression without its positions.
abbrev bare (e : Expr) : Expr := e.mapPositions fun _ => 0

-- The same expression in a source that has so many more bytes in front of it.
abbrev shift (distance : Nat) (e : Expr) : Expr := e.mapPositions (· + distance)

end Expr

end EventText
