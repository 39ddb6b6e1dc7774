import EventText.Proofs.Expr.Parts

namespace EventText

-- What the names and slots of an expression stand for.
structure Environment where
  event : Event
  clock : Timestamp
  plain : String → Outcome
  slot : Nat → Outcome

namespace Environment

def bindName (env : Environment) (name : String) (o : Outcome) : Environment :=
  { env with plain := fun other => if other = name then o else env.plain other }

def bindSlot (env : Environment) (n : Nat) (o : Outcome) : Environment :=
  { env with slot := fun m => if m = n then o else env.slot m }

-- Without iterations all names are those of the event's properties.
def ofEvent (event : Event) (clock : Timestamp) : Environment :=
  ⟨event, clock, fun name => .ofOption (event.properties.get? name), fun _ => .undefined⟩

end Environment

def Scope.environment (scope : Scope) : Environment :=
  { Environment.ofEvent scope.event scope.clock with slot := scope.slot }

-- Whether an operation is true of some element of a collection, or of every one.
def Quantifier.over (q : Quantifier) (collection : Outcome) (operation : Outcome → Outcome) :
    Outcome :=
  match collection.value?.bind Value.elements? with
  | some values => .bool (q.holds values fun value => (operation (.ofValue value)).isTrue)
  | none => .undefined

-- What an element or a member adds to the literal that it stands in.
def Element.items : Element Outcome → List Value
  | .item o => o.toValue?.toList
  | .spread o => o.spreadItems

def Member.contributions : Member Outcome → List (String × Value)
  | .named name o => (o.toValue?.map fun value => (name, value)).toList
  | .spread o => o.spreadMembers

-- A call by the function that its name means. A name without a meaning gives nothing.
def Surroundings.call (within : Surroundings) (env : Environment) (name : String)
    (ignoreCase : Bool) (arguments : List Outcome) : Outcome :=
  match Function.resolve? within.resolver name arguments.length ignoreCase with
  | .ok f => f.apply env.clock ignoreCase arguments
  | .error _ => .undefined

theorem Outcome.isTrue_bool (b : Bool) : (Outcome.bool b).isTrue = b := by
  cases b <;> rfl

namespace Expr

variable (within : Surroundings) (env : Environment)

mutual

-- Reads an expression as it is written, and passes its value on to the operation that it stands
-- under. A wildcard makes that operation range over the elements of its collection; nothing is
-- rewritten and no slots are needed.
def pass : Expr → (Outcome → Outcome) → Outcome
  | .constant s, operation => operation (.scalar s)
  | .property name, operation => operation (env.plain name)
  | .builtin p, operation => operation (p.ofEvent env.event)
  | .slot n, operation => operation (env.slot n)
  | .member target name, operation =>
      pass target fun o => operation (o.project (Value.member? name))
  | .index target key, operation => pass target fun o => operation (o.element (pass key id))
  | .wildcard target q, operation => pass target fun o => q.over o operation
  | .call name arguments ignoreCase _, operation =>
      operation (if Surroundings.isRest name arguments ignoreCase then
          .value (env.event.remainingProperties within.referenced)
        else passAll arguments (within.call env name ignoreCase))
  | .unary op operand, operation => operation (pass operand op.apply)
  | .binary op left right ignoreCase _, operation =>
      operation (pass left fun x => pass right fun y => op.apply ignoreCase x y)
  | .conditional condition consequent none, operation =>
      operation (if (pass condition id).isTrue then pass consequent id else .undefined)
  | .conditional condition consequent (some alternative), operation =>
      operation (if (pass condition id).isTrue then pass consequent id else pass alternative id)
  | .array elements, operation =>
      operation (.value (.sequence ((passElements elements).flatMap Element.items)))
  | .object members, operation =>
      operation (.value (.record
        (Members.ofContributions ((passMembers members).flatMap Member.contributions)) none))

-- Arguments range from the left: the wildcards of the first one are outermost.
def passAll : List Expr → (List Outcome → Outcome) → Outcome
  | [], operation => operation []
  | e :: rest, operation => pass e fun o => passAll rest fun os => operation (o :: os)

def passElements : List (Element Expr) → List (Element Outcome)
  | [] => []
  | .item e :: rest => .item (pass e id) :: passElements rest
  | .spread e :: rest => .spread (pass e id) :: passElements rest

def passMembers : List (Member Expr) → List (Member Outcome)
  | [] => []
  | .named name e :: rest => .named name (pass e id) :: passMembers rest
  | .spread e :: rest => .spread (pass e id) :: passMembers rest

end

-- The value of an expression on its own.
def meaning (e : Expr) : Outcome := e.pass within env id

variable {within env}

theorem passElements_eq (elements : List (Element Expr)) :
    passElements within env elements = elements.map (Element.map (meaning within env)) := by
  induction elements with
  | nil => simp [passElements]
  | cons element rest ih => cases element <;> simp [passElements, Element.map, meaning, ih]

theorem passMembers_eq (members : List (Member Expr)) :
    passMembers within env members = members.map (Member.map (meaning within env)) := by
  induction members with
  | nil => simp [passMembers]
  | cons member rest ih => cases member <;> simp [passMembers, Member.map, meaning, ih]

-- Without a wildcard on its path an expression passes on exactly one value.
theorem pass_of_pull_none {n : Nat} {e : Expr} (h : pull n e = none)
    (operation : Outcome → Outcome) :
    e.pass within env operation = operation (e.meaning within env) := by
  fun_induction pull n e generalizing operation with
  | case1 => cases h
  | case2 => cases h
  | case3 target name ih =>
      have ht : pull n target = none := by simpa using h
      rw [meaning, pass, pass, ih ht, ih ht]
      rfl
  | case4 target key ih =>
      have ht : pull n target = none := by simpa using h
      rw [meaning, pass, pass, ih ht, ih ht]
      rfl
  | case5 e hw hm hi =>
      cases e with
      | wildcard target q => exact absurd rfl (hw target q)
      | member target name => exact absurd rfl (hm target name)
      | index target key => exact absurd rfl (hi target key)
      | conditional condition consequent alternative =>
          cases alternative <;> simp only [meaning, pass, id_eq]
      | _ => simp only [meaning, pass, id_eq]

theorem passAll_of_pullFirst_none {n : Nat} {es : List Expr} (h : pullFirst n es = none)
    (operation : List Outcome → Outcome) :
    passAll within env es operation = operation (es.map (meaning within env)) := by
  induction es generalizing operation with
  | nil => simp [passAll]
  | cons e rest ih =>
      cases he : pull n e with
      | some p => simp [pullFirst, he] at h
      | none =>
          have hrest : pullFirst n rest = none := by simpa [pullFirst, he] using h
          simp only [passAll, pass_of_pull_none he, ih hrest, List.map_cons]

-- The value of an expression that ranges over nothing comes from the values of its children.

theorem meaning_member {n : Nat} {target : Expr} (h : pull n target = none) (name : String) :
    (member target name).meaning within env
      = (target.meaning within env).project (Value.member? name) := by
  change target.pass within env (fun o => o.project (Value.member? name)) = _
  exact pass_of_pull_none h _

theorem meaning_index {n : Nat} {target : Expr} (h : pull n target = none) (key : Expr) :
    (index target key).meaning within env
      = (target.meaning within env).element (key.meaning within env) := by
  change target.pass within env (fun o => o.element (key.meaning within env)) = _
  exact pass_of_pull_none h _

theorem meaning_unary {n : Nat} {operand : Expr} (h : pull n operand = none) (op : UnaryOp) :
    (unary op operand).meaning within env = op.apply (operand.meaning within env) := by
  change operand.pass within env op.apply = _
  exact pass_of_pull_none h _

theorem meaning_binary {n : Nat} {left right : Expr} (hleft : pull n left = none)
    (hright : pull n right = none) (op : BinaryOp) (ignoreCase : Bool) (position : Nat) :
    (binary op left right ignoreCase position).meaning within env
      = op.apply ignoreCase (left.meaning within env) (right.meaning within env) := by
  change left.pass within env (fun x => right.pass within env fun y => op.apply ignoreCase x y) = _
  rw [pass_of_pull_none hleft, pass_of_pull_none hright]

theorem meaning_call {n : Nat} {arguments : List Expr} (h : pullFirst n arguments = none)
    {name : String} {ignoreCase : Bool}
    (ordinary : Surroundings.isRest name arguments ignoreCase = false) (position : Nat) :
    (call name arguments ignoreCase position).meaning within env
      = within.call env name ignoreCase (arguments.map (meaning within env)) := by
  change (if Surroundings.isRest name arguments ignoreCase then _
    else passAll within env arguments (within.call env name ignoreCase)) = _
  rw [ordinary, passAll_of_pullFirst_none h]
  rfl

theorem meaning_rest {name : String} {arguments : List Expr} {ignoreCase : Bool}
    (special : Surroundings.isRest name arguments ignoreCase = true) (position : Nat) :
    (call name arguments ignoreCase position).meaning within env
      = .value (env.event.remainingProperties within.referenced) := by
  change (if Surroundings.isRest name arguments ignoreCase then _ else _) = _
  rw [special]
  rfl

theorem meaning_array (elements : List (Element Expr)) :
    (array elements).meaning within env = .value (.sequence
      ((elements.map (Element.map (meaning within env))).flatMap Element.items)) := by
  rw [← passElements_eq]
  rfl

theorem meaning_object (members : List (Member Expr)) :
    (object members).meaning within env = .value (.record (Members.ofContributions
      ((members.map (Member.map (meaning within env))).flatMap Member.contributions)) none) := by
  rw [← passMembers_eq]
  rfl

-- Wildcards anywhere else do not matter for the path.
theorem WildcardFree.pull_eq_none {e : Expr} (h : e.WildcardFree) (n : Nat) :
    pull n e = none := by
  fun_induction pull n e with
  | case1 target q => exact absurd .here (h target q)
  | case2 target q => exact absurd .here (h target q)
  | case3 target name ih => simp [ih (h.child (by simp [children]))]
  | case4 target key ih => simp [ih (h.child (by simp [children]))]
  | case5 => rfl

theorem pass_of_wildcardFree {e : Expr} (h : e.WildcardFree) (operation : Outcome → Outcome) :
    e.pass within env operation = operation (e.meaning within env) :=
  pass_of_pull_none (h.pull_eq_none 0) operation

end Expr

end EventText
