import EventText.Proofs.Expr.Gathering
import EventText.Proofs.Expr.Evaluation

namespace EventText

-- What an expression can ask an event for.
inductive Question
  | property (name : String)
  | builtin (p : BuiltinProperty)
  | remaining (excluded : List String)
deriving DecidableEq

def Question.answer (event : Event) : Question → Outcome
  | property name => .ofOption (event.properties.get? name)
  | builtin p => p.ofEvent event
  | remaining excluded => .value (event.remainingProperties excluded)

namespace Plan

def ownQuestion? : Plan → Option Question
  | .property name => some (.property name)
  | .builtin p => some (.builtin p)
  | .remaining excluded => some (.remaining excluded)
  | _ => none

-- The questions of a plan and its parts.
def questions (plan : Plan) : List Question :=
  plan.ownQuestion?.toList ++ plan.parts.attach.flatMap fun part => part.1.questions
termination_by sizeOf plan
decreasing_by exact sizeOf_part part.2

theorem questions_eq (plan : Plan) :
    plan.questions = plan.ownQuestion?.toList ++ plan.parts.flatMap questions := by
  rw [questions]
  simp

theorem mem_questions_of_part {plan part : Plan} (hpart : part ∈ plan.parts) {q : Question}
    (hq : q ∈ part.questions) : q ∈ plan.questions := by
  rw [questions_eq]
  exact List.mem_append_right _ (List.mem_flatMap.mpr ⟨part, hpart, hq⟩)

-- An event that answers the questions of a plan in the same way gives it the same value.
theorem eval_congr {plan : Plan} {scope : Scope} {event : Event}
    (h : ∀ q ∈ plan.questions, q.answer event = q.answer scope.event) :
    plan.eval { scope with event } = plan.eval scope := by
  induction plan using partInduction generalizing scope with
  | step plan ih =>
      have inner : ∀ part ∈ plan.parts, part.eval { scope with event } = part.eval scope :=
        fun part hpart => ih part hpart fun q hq => h q (mem_questions_of_part hpart hq)
      have own : ∀ q, plan.ownQuestion? = some q → q.answer event = q.answer scope.event := by
        intro q hq
        refine h q ?_
        rw [questions_eq, hq]
        exact List.mem_append_left _ List.mem_cons_self
      cases plan with
      | constant o => simp [eval]
      | slot n => simp [eval, Scope.slot]
      | property name =>
          rw [eval, eval]
          exact own (.property name) rfl
      | builtin p =>
          rw [eval, eval]
          exact own (.builtin p) rfl
      | remaining excluded =>
          rw [eval, eval]
          exact own (.remaining excluded) rfl
      | member target name =>
          have htarget := inner target (by simp [parts])
          rw [eval, eval, htarget]
      | index target key =>
          have htarget := inner target (by simp [parts])
          have hkey := inner key (by simp [parts])
          rw [eval, eval, htarget, hkey]
      | call f arguments ignoreCase =>
          have harguments : arguments.map (·.eval { scope with event })
              = arguments.map (·.eval scope) :=
            List.map_congr_left fun part hpart => inner part hpart
          rw [eval, eval, evalAll_eq_map, evalAll_eq_map, harguments]
      | unary op operand =>
          have hoperand := inner operand (by simp [parts])
          rw [eval, eval, hoperand]
      | binary op left right ignoreCase =>
          have hleft := inner left (by simp [parts])
          have hright := inner right (by simp [parts])
          rw [eval, eval, hleft, hright]
      | conditional condition consequent alternative =>
          have hcondition := inner condition (by simp [parts])
          have hconsequent := inner consequent (by simp [parts])
          cases alternative with
          | none => rw [eval, eval, hcondition, hconsequent]
          | some alternative =>
              have halternative := inner alternative (by simp [parts])
              rw [eval, eval, hcondition, hconsequent, halternative]
      | array elements =>
          have hcontents := List.map_congr_left fun part hpart => inner part hpart
          rw [eval, eval, evalElements_eq, evalElements_eq, Element.map_eq_map rfl hcontents]
      | object members =>
          have hcontents := List.map_congr_left fun part hpart => inner part hpart
          rw [eval, eval, evalMembers_eq, evalMembers_eq, Member.map_eq_map rfl hcontents]
      | quantified q collection n body =>
          have hcollection := inner collection (by simp [parts])
          have hbody (o : Outcome) :
              body.eval ({ scope with event }.bind n o) = body.eval (scope.bind n o) := by
            refine @ih body (by simp [parts]) (scope.bind n o) fun q hq => h q ?_
            exact mem_questions_of_part (by simp [parts]) hq
          rw [eval_quantified, eval_quantified, hcollection]
          exact congrArg (q.over _) (funext hbody)

end Plan

namespace Expr

-- What an expression asks for without looking at its children, which are not asked then. Captured
-- names stand for no properties, and `rest()` leaves out the excluded ones.
def ownQuestions? (excluded captured : List String) : Expr → Option (List Question)
  | .property name => some (if name ∈ captured then [] else [.property name])
  | .builtin p => some [.builtin p]
  | .member (.builtin .properties) name => some [.property name]
  | .index (.builtin .properties) (.constant (.string name)) => some [.property name]
  | .call name arguments ignoreCase _ =>
      if Surroundings.isRest name arguments ignoreCase then some [.remaining excluded] else none
  | _ => none

def questions (excluded captured : List String) (e : Expr) : List Question :=
  match e.ownQuestions? excluded captured with
  | some own => own
  | none => e.children.attach.flatMap fun c => questions excluded captured c.1
termination_by e.size
decreasing_by exact size_child c.2

variable {excluded captured : List String}

theorem questions_of_own {e : Expr} {own : List Question}
    (h : e.ownQuestions? excluded captured = some own) : e.questions excluded captured = own := by
  rw [questions, h]

theorem questions_of_children {e : Expr} (h : e.ownQuestions? excluded captured = none) :
    e.questions excluded captured = e.children.flatMap (questions excluded captured) := by
  rw [questions, h]
  simp

-- An expression asks for itself, or through its children.
@[elab_as_elim]
theorem questionInduction (excluded captured : List String) {P : Expr → Prop}
    (own : ∀ e questions, e.ownQuestions? excluded captured = some questions → P e)
    (inner : ∀ e, e.ownQuestions? excluded captured = none → (∀ c ∈ e.children, P c) → P e)
    (e : Expr) : P e := by
  induction e using childInduction with
  | step e ih =>
      cases h : e.ownQuestions? excluded captured with
      | none => exact inner e h ih
      | some questions => exact own e questions h

theorem ownQuestions?_member {target : Expr} (h : target ≠ .builtin .properties) (name : String) :
    (Expr.member target name).ownQuestions? excluded captured = none := by
  unfold ownQuestions?
  split <;> simp_all

theorem ownQuestions?_index {target key : Expr}
    (h : ∀ name, target = .builtin .properties → key ≠ .constant (.string name)) :
    (Expr.index target key).ownQuestions? excluded captured = none := by
  unfold ownQuestions?
  split <;> simp_all

theorem ownQuestions?_call {name : String} {arguments : List Expr} {ignoreCase : Bool}
    (h : Surroundings.isRest name arguments ignoreCase = false) (position : Nat) :
    (Expr.call name arguments ignoreCase position).ownQuestions? excluded captured = none := by
  simp [ownQuestions?, h]

-- The forms of expressions that ask for themselves.
theorem ownQuestions?_eq_some {e : Expr} {own : List Question}
    (h : e.ownQuestions? excluded captured = some own) :
    (∃ name, e = .property name ∧ own = if name ∈ captured then [] else [.property name]) ∨
      (∃ p, e = .builtin p ∧ own = [.builtin p]) ∨
      (∃ name, (e = .member (.builtin .properties) name ∨
        e = .index (.builtin .properties) (.constant (.string name))) ∧
          own = [.property name]) ∨
      ∃ name ignoreCase position, e = .call name [] ignoreCase position ∧
        Surroundings.isRest name [] ignoreCase = true ∧ own = [.remaining excluded] := by
  unfold ownQuestions? at h
  split at h
  · next name => exact .inl ⟨name, rfl, (Option.some.inj h).symm⟩
  · next p => exact .inr (.inl ⟨p, rfl, (Option.some.inj h).symm⟩)
  · next name => exact .inr (.inr (.inl ⟨name, .inl rfl, (Option.some.inj h).symm⟩))
  · next name => exact .inr (.inr (.inl ⟨name, .inr rfl, (Option.some.inj h).symm⟩))
  · next name arguments ignoreCase position =>
    split at h
    · next hrest =>
      obtain rfl := Surroundings.arguments_of_isRest hrest
      exact .inr (.inr (.inr ⟨name, ignoreCase, position, rfl, hrest, (Option.some.inj h).symm⟩))
    · cases h
  · cases h

theorem questions_slot (n : Nat) : (Expr.slot n).questions excluded captured = [] :=
  questions_of_children rfl

theorem gathers_questions : Gathers (questions excluded captured) fun _ => [] where
  slot := questions_slot
  wildcard := fun _ _ => by
    rw [questions_of_children rfl]
    simp [children]
  member := fun _ name htarget => by
    rw [questions_of_children (ownQuestions?_member (htarget .properties) name)]
    simp [children]
  index := fun _ _ htarget => by
    rw [questions_of_children (ownQuestions?_index fun _ heq => absurd heq (htarget .properties))]
    simp [children]
  call := fun name ignoreCase position _ => ⟨[], fun arguments _ hne => by
    -- A call with arguments is no call of `rest()`.
    have hrest : Surroundings.isRest name arguments ignoreCase = false := by
      simp [Surroundings.isRest, hne]
    exact questions_of_children (ownQuestions?_call hrest position)⟩
  unary := fun _ _ => by
    rw [questions_of_children rfl]
    simp [children]
  binary := fun _ _ _ _ _ => by
    rw [questions_of_children rfl]
    simp [children]

-- A wildcard that is pulled out takes the questions of its collection along. What is left asks the
-- others.
theorem questions_ranging {n : Nat} {e : Expr} {p : Pulled Expr} (h : ranging n e = some p) :
    (p.collection.questions excluded captured ++ p.body.questions excluded captured).Perm
      (e.questions excluded captured) := gathers_questions.ranging h

end Expr

namespace Surroundings

variable {within : Surroundings}

private theorem questions_leaf {plan : Plan} {e : Expr} {excluded : List String} {q : Question}
    (hplan : plan.ownQuestion? = some q) (hparts : plan.parts = [])
    (he : e.ownQuestions? excluded [] = some [q]) :
    ([plan].flatMap Plan.questions).Perm ([e].flatMap (Expr.questions excluded [])) := by
  rw [List.flatMap_singleton, List.flatMap_singleton, Plan.questions_eq, hplan, hparts,
    Expr.questions_of_own he]
  exact .refl _

private theorem questions_inner {plan : Plan} {e : Expr} {excluded : List String}
    (hplan : plan.ownQuestion? = none) (he : e.ownQuestions? excluded [] = none)
    (inner : (plan.parts.flatMap Plan.questions).Perm
      (e.children.flatMap (Expr.questions excluded []))) :
    ([plan].flatMap Plan.questions).Perm ([e].flatMap (Expr.questions excluded [])) := by
  rw [List.flatMap_singleton, List.flatMap_singleton, Plan.questions_eq, hplan,
    Expr.questions_of_children he]
  exact inner

-- Lowering loses no question, adds none and repeats none.
theorem Lowers.questions_perm {es : List Expr} {next : Nat} {plans : List Plan} {after : Nat}
    (h : within.Lowers es next plans after) :
    (plans.flatMap Plan.questions).Perm (es.flatMap (Expr.questions within.referenced [])) := by
  induction h with
  | nil => exact .nil
  | cons first others ihfirst ihothers =>
      rw [List.flatMap_singleton, List.flatMap_singleton] at ihfirst
      rw [List.flatMap_cons, List.flatMap_cons]
      exact ihfirst.append ihothers
  | constant => exact questions_inner rfl rfl .nil
  | slot => exact questions_inner rfl rfl .nil
  | property => exact questions_leaf rfl rfl rfl
  | builtin => exact questions_leaf rfl rfl rfl
  | ownMember => exact questions_leaf rfl rfl rfl
  | ownIndex => exact questions_leaf rfl rfl rfl
  | remaining special =>
      refine questions_leaf rfl rfl ?_
      simp [Expr.ownQuestions?, special]
  | @ranging e p collection body next middle after found range inner ihrange ihinner =>
      rw [List.flatMap_singleton, List.flatMap_singleton] at ihrange ihinner
      rw [List.flatMap_singleton, List.flatMap_singleton, Plan.questions_eq]
      have hparts : (Plan.quantified p.quantifier collection next body).parts.flatMap
          Plan.questions = collection.questions ++ body.questions := by
        simp [Plan.parts]
      rw [hparts]
      exact (ihrange.append ihinner).trans (Expr.questions_ranging found)
  | member other plain inner ih => exact questions_inner rfl (Expr.ownQuestions?_member other _) ih
  | index other plain inner ih => exact questions_inner rfl (Expr.ownQuestions?_index other) ih
  | call plain ordinary found inner ih =>
      exact questions_inner rfl (Expr.ownQuestions?_call ordinary _) ih
  | unary plain inner ih => exact questions_inner rfl rfl ih
  | binary plain inner ih => exact questions_inner rfl rfl ih
  | conditional inner ih => exact questions_inner rfl rfl ih
  | array shapes inner ih => exact questions_inner rfl rfl ih
  | object shapes inner ih => exact questions_inner rfl rfl ih

theorem questions_lower {e : Expr} {next : Nat} {plan : Plan} {after : Nat}
    (h : within.lower e next = .ok (plan, after)) :
    plan.questions.Perm (e.questions within.referenced []) := by
  have hperm := (lowers_of_lower h).questions_perm
  rw [List.flatMap_singleton, List.flatMap_singleton] at hperm
  exact hperm

end Surroundings

end EventText
