import EventText.Proofs.Expr.Lowering

namespace EventText

-- When the events of the examples happen.
def midday : Timestamp := ⟨2024, 5, 17, 12, 0, 0, 0, 0⟩

namespace Plan

theorem evalAll_eq_map (plans : List Plan) (scope : Scope) :
    evalAll plans scope = plans.map (·.eval scope) := by
  induction plans with
  | nil => simp [evalAll]
  | cons plan rest ih => simp [evalAll, ih]

theorem evalElements_eq (elements : List (Element Plan)) (scope : Scope) :
    evalElements elements scope
      = (elements.map (Element.map (·.eval scope))).flatMap Element.items := by
  induction elements with
  | nil => simp [evalElements]
  | cons element rest ih =>
      cases element <;> simp [evalElements, Element.map, Element.items, ih]

theorem evalMembers_eq (members : List (Member Plan)) (scope : Scope) :
    evalMembers members scope
      = (members.map (Member.map (·.eval scope))).flatMap Member.contributions := by
  induction members with
  | nil => simp [evalMembers]
  | cons member rest ih =>
      cases member <;> simp [evalMembers, Member.map, Member.contributions, ih]

theorem eval_quantified (q : Quantifier) (collection : Plan) (n : Nat) (body : Plan)
    (scope : Scope) :
    (quantified q collection n body).eval scope
      = q.over (collection.eval scope) fun o => body.eval (scope.bind n o) := by
  simp only [eval]
  rfl

end Plan

theorem Scope.slot_bind (scope : Scope) (n m : Nat) (o : Outcome) :
    (scope.bind n o).slot m = if m = n then o else scope.slot m := by
  by_cases h : m = n
  · simp [Scope.slot, Scope.bind, h]
  · simp [Scope.slot, Scope.bind, h, Ne.symm h]

theorem Scope.environment_bind (scope : Scope) (n : Nat) (o : Outcome) :
    (scope.bind n o).environment = scope.environment.bindSlot n o := by
  simp only [Scope.environment, Environment.bindSlot, Environment.mk.injEq]
  exact ⟨rfl, rfl, rfl, funext fun m => scope.slot_bind n m o⟩

namespace Surroundings

variable {within : Surroundings}

-- A path to a property of `@p` reads what the property's own name reads.

private theorem project_properties (event : Event) (name : String) :
    (BuiltinProperty.properties.ofEvent event).project (Value.member? name)
      = .ofOption (event.properties.get? name) := rfl

private theorem element_properties (event : Event) (name : String) :
    (BuiltinProperty.properties.ofEvent event).element (.scalar (.string name))
      = .ofOption (event.properties.get? name) := rfl

-- A lowered expression has the value that the expression itself has when it is read as it is
-- written. Slots that are handed out for wildcards are free, so that no value is covered up.
theorem Lowers.eval_eq {es : List Expr} {next : Nat} {plans : List Plan} {after : Nat}
    (h : within.Lowers es next plans after) (hbelow : ∀ e ∈ es, e.SlotsBelow next)
    (scope : Scope) :
    plans.map (·.eval scope) = es.map (Expr.meaning within scope.environment) := by
  induction h generalizing scope with
  | nil => rfl
  | cons first others ihfirst ihothers =>
      have hfirst := ihfirst (fun e he => hbelow e (by simp_all)) scope
      have hothers := ihothers
        (fun e he => (hbelow e (List.mem_cons_of_mem _ he)).mono first.next_le) scope
      simp only [List.map_cons, List.map_nil, List.cons.injEq, and_true] at hfirst
      rw [List.map_cons, List.map_cons, hfirst, hothers]
  | constant => simp [Plan.eval, Expr.meaning, Expr.pass]
  | property => simp [Plan.eval, Expr.meaning, Expr.pass, Scope.environment, Environment.ofEvent]
  | builtin => simp [Plan.eval, Expr.meaning, Expr.pass, Scope.environment, Environment.ofEvent]
  | slot => simp [Plan.eval, Expr.meaning, Expr.pass, Scope.environment]
  | ownMember =>
      simp [Plan.eval, Expr.meaning, Expr.pass, Scope.environment, Environment.ofEvent,
        project_properties]
  | ownIndex =>
      simp [Plan.eval, Expr.meaning, Expr.pass, Scope.environment, Environment.ofEvent,
        element_properties]
  | @ranging e p collection body next middle after found range inner ihrange ihinner =>
      have he : e.SlotsBelow next := hbelow e (by simp)
      have hcollection : p.collection.SlotsBelow (next + 1) := he.collection found
      have hbody : p.body.SlotsBelow middle := he.body found range.next_le
      have hfresh : ¬ (Expr.slot next).Occurs e := fun hn => absurd (he next hn) (by omega)
      have hrange := ihrange (by simpa using hcollection) scope
      have hinner := fun o => ihinner (by simpa using hbody) (scope.bind next o)
      simp only [List.map_cons, List.map_nil, List.cons.injEq, and_true,
        Scope.environment_bind] at hrange hinner
      simp only [List.map_cons, List.map_nil, Plan.eval_quantified, hrange, hinner,
        Expr.meaning_ranging found hfresh]
  | member other plain inner ih =>
      have hvalue := ih (Expr.slotsBelow_children hbelow) scope
      simp only [List.map_cons, List.map_nil, List.cons.injEq, and_true] at hvalue ⊢
      rw [Plan.eval, hvalue, Expr.meaning_member plain]
  | index other plain inner ih =>
      have hvalues := ih (Expr.slotsBelow_children hbelow) scope
      simp only [List.map_cons, List.map_nil, List.cons.injEq, and_true] at hvalues ⊢
      rw [Plan.eval, hvalues.1, hvalues.2, Expr.meaning_index plain]
  | remaining special =>
      simp only [List.map_cons, List.map_nil, List.cons.injEq, and_true]
      rw [Plan.eval, Expr.meaning_rest special]
      rfl
  | @call name arguments ignoreCase position f plans next after plain ordinary found inner ih =>
      have hvalues := ih (Expr.slotsBelow_children hbelow) scope
      simp only [List.map_cons, List.map_nil, List.cons.injEq, and_true]
      rw [Plan.eval, Plan.evalAll_eq_map, hvalues, Expr.meaning_call plain ordinary,
        Surroundings.call, List.length_map, found]
      rfl
  | unary plain inner ih =>
      have hvalue := ih (Expr.slotsBelow_children hbelow) scope
      simp only [List.map_cons, List.map_nil, List.cons.injEq, and_true] at hvalue ⊢
      rw [Plan.eval, hvalue, Expr.meaning_unary plain]
  | binary plain inner ih =>
      obtain ⟨hleft, hright⟩ := Expr.pullEither_eq_none.mp plain
      have hvalues := ih (Expr.slotsBelow_children hbelow) scope
      simp only [List.map_cons, List.map_nil, List.cons.injEq, and_true] at hvalues ⊢
      rw [Plan.eval, hvalues.1, hvalues.2, Expr.meaning_binary hleft hright]
  | @conditional condition consequent _ _ _ _ alternative alternativePlan inner ih =>
      have hvalues := ih (Expr.slotsBelow_children hbelow) scope
      cases alternative <;> cases alternativePlan <;>
        simp_all [Plan.eval, Expr.meaning, Expr.pass]
  | array shapes inner ih =>
      have hvalues := ih (Expr.slotsBelow_children hbelow) scope
      simp only [List.map_cons, List.map_nil, List.cons.injEq, and_true]
      rw [Plan.eval, Plan.evalElements_eq, Element.map_eq_map shapes hvalues, Expr.meaning_array]
  | object shapes inner ih =>
      have hvalues := ih (Expr.slotsBelow_children hbelow) scope
      simp only [List.map_cons, List.map_nil, List.cons.injEq, and_true]
      rw [Plan.eval, Plan.evalMembers_eq, Member.map_eq_map shapes hvalues, Expr.meaning_object]

theorem eval_lower {e : Expr} {next : Nat} {plan : Plan} {after : Nat}
    (h : within.lower e next = .ok (plan, after)) (hbelow : e.SlotsBelow next) (scope : Scope) :
    plan.eval scope = e.meaning within scope.environment := by
  have := (lowers_of_lower h).eval_eq (by simpa using hbelow) scope
  simpa using this

end Surroundings

end EventText
