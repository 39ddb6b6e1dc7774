import EventText.Event.Basic
import EventText.Expr.Resolution
import EventText.Message.Render

namespace EventText

-- An expression ready to be evaluated: functions are found, and wildcards have become
-- quantifiers that bind the element to a slot.
inductive Plan
  | constant (o : Outcome)
  | property (name : String)
  | builtin (p : BuiltinProperty)
  | slot (n : Nat)
  | member (target : Plan) (name : String)
  | index (target key : Plan)
  | call (f : Function) (arguments : List Plan) (ignoreCase : Bool)
  | unary (op : UnaryOp) (operand : Plan)
  | binary (op : BinaryOp) (left right : Plan) (ignoreCase : Bool)
  | conditional (condition consequent : Plan) (alternative : Option Plan)
  | array (elements : List (Element Plan))
  | object (members : List (Member Plan))
  | quantified (q : Quantifier) (collection : Plan) (n : Nat) (body : Plan)
  | remaining (excluded : List String)

-- What an expression is evaluated in: an event, the present moment, and the values of the slots,
-- innermost first.
structure Scope where
  event : Event
  clock : Timestamp
  slots : List (Nat × Outcome)

namespace Scope

def ofEvent (event : Event) (clock : Timestamp) : Scope := ⟨event, clock, []⟩

def bind (scope : Scope) (n : Nat) (o : Outcome) : Scope :=
  { scope with slots := (n, o) :: scope.slots }

-- The innermost value of a slot. A slot that is not bound is undefined.
def slot (scope : Scope) (n : Nat) : Outcome :=
  match scope.slots.find? fun binding => binding.1 == n with
  | some (_, o) => o
  | none => .undefined

end Scope

-- The properties of the event as one value.
def Event.propertyRecord (event : Event) : Value := .record event.properties.entries none

def Event.messageHoles (event : Event) : List MessageHole :=
  MessageTemplate.holes (MessageTemplate.read event.messageTemplate)

-- The properties that neither the message shows nor the list names.
def Event.remainingProperties (event : Event) (excluded : List String) : Value :=
  let shown := event.messageHoles.map (·.name)
  .record (event.properties.entries.filter fun entry =>
    !excluded.contains entry.1 && !shown.contains entry.1) none

-- Without formatted holes there are no renderings.
def Event.renderings (event : Event) : Outcome :=
  let tokens := MessageTemplate.read event.messageTemplate
  match Message.renderings Look.plain event.properties tokens with
  | [] => .undefined
  | texts => .value (.sequence (texts.map Value.ofString))

def BuiltinProperty.ofEvent (p : BuiltinProperty) (event : Event) : Outcome :=
  match p with
  | timestamp => .scalar (.timestamp event.timestamp)
  | message => .string event.message
  | messageTemplate => .string event.messageTemplate
  | level => .string event.level.name
  | exception => match event.exception with | some text => .string text | none => .undefined
  | properties => .value event.propertyRecord
  | eventId => .scalar (.uint (EventId.ofTemplate event.messageTemplate).toUInt64)
  | renderings => event.renderings

def Value.member? (name : String) : Value → Option Value
  | .record members _ => Members.get? members name
  | _ => none

-- What a wildcard ranges over.
def Value.elements? : Value → Option (List Value)
  | .sequence items => some items
  | .record members _ => some (members.map (·.2))
  | .dictionary entries => some (entries.map (·.2))
  | .scalar _ => none

-- What a value adds to an array literal, or to an object literal, into which it is spread.
def Outcome.spreadItems : Outcome → List Value
  | .value (.sequence items) => items
  | _ => []

def Outcome.spreadMembers : Outcome → List (String × Value)
  | .value (.record members _) => members
  | .value (.dictionary entries) => entries.filterMap fun entry =>
      match entry.1 with
      | .string name => some (name, entry.2)
      | _ => none
  | _ => []

-- Later members replace earlier ones of the same name.
def Members.ofContributions (contributions : List (String × Value)) : List (String × Value) :=
  contributions.foldl (fun members entry => Members.put members entry.1 entry.2) []

def Quantifier.holds (q : Quantifier) (values : List Value) (p : Value → Bool) : Bool :=
  match q with
  | any => values.any p
  | all => values.all p

mutual

def Plan.eval (plan : Plan) (scope : Scope) : Outcome :=
  match plan with
  | .constant o => o
  | .property name => .ofOption (scope.event.properties.get? name)
  | .builtin p => p.ofEvent scope.event
  | .slot n => scope.slot n
  | .member target name => (target.eval scope).project (Value.member? name)
  | .index target key => (target.eval scope).element (key.eval scope)
  | .call f arguments ignoreCase =>
      f.apply scope.clock ignoreCase (Plan.evalAll arguments scope)
  | .unary op operand => op.apply (operand.eval scope)
  | .binary op left right ignoreCase =>
      op.apply ignoreCase (left.eval scope) (right.eval scope)
  | .conditional condition consequent none =>
      if (condition.eval scope).isTrue then consequent.eval scope else .undefined
  | .conditional condition consequent (some alternative) =>
      if (condition.eval scope).isTrue then consequent.eval scope else alternative.eval scope
  | .array elements => .value (.sequence (Plan.evalElements elements scope))
  | .object members =>
      .value (.record (Members.ofContributions (Plan.evalMembers members scope)) none)
  | .quantified q collection n body =>
      match (collection.eval scope).value?.bind Value.elements? with
      | some values =>
          .bool (q.holds values fun value => (body.eval (scope.bind n (.ofValue value))).isTrue)
      | none => .undefined
  | .remaining excluded => .value (scope.event.remainingProperties excluded)

def Plan.evalAll (plans : List Plan) (scope : Scope) : List Outcome :=
  match plans with
  | [] => []
  | plan :: rest => plan.eval scope :: Plan.evalAll rest scope

-- Undefined items are left out.
def Plan.evalElements (elements : List (Element Plan)) (scope : Scope) : List Value :=
  match elements with
  | [] => []
  | .item plan :: rest => (plan.eval scope).toValue?.toList ++ Plan.evalElements rest scope
  | .spread plan :: rest => (plan.eval scope).spreadItems ++ Plan.evalElements rest scope

-- What the members of an object literal contribute, in order. Undefined members are left out.
def Plan.evalMembers (members : List (Member Plan)) (scope : Scope) : List (String × Value) :=
  match members with
  | [] => []
  | .named name plan :: rest =>
      ((plan.eval scope).toValue?.map fun value => (name, value)).toList
        ++ Plan.evalMembers rest scope
  | .spread plan :: rest => (plan.eval scope).spreadMembers ++ Plan.evalMembers rest scope

end

end EventText
