import EventText.Proofs.Expr.Pulling
import EventText.Proofs.Failure

namespace EventText

theorem Expr.ranging_wildcard_ne_none (target : Expr) (q : Quantifier) (next : Nat) :
    (Expr.wildcard target q).ranging next ≠ none := by
  change Expr.pull next (.wildcard target q) ≠ none
  unfold Expr.pull
  split <;> simp

namespace Surroundings

variable (within : Surroundings)

-- All that lowering does, for expressions that are lowered one after the other. A single one is
-- a list of one, so that operands, arguments and literals go by the same rules.
inductive Lowers : List Expr → Nat → List Plan → Nat → Prop
  | nil {next} : Lowers [] next [] next
  | cons {e rest plan plans next middle after} (first : Lowers [e] next [plan] middle)
      (others : Lowers rest middle plans after) : Lowers (e :: rest) next (plan :: plans) after
  | constant {s next} : Lowers [.constant s] next [.constant (.scalar s)] next
  | property {name next} : Lowers [.property name] next [.property name] next
  | builtin {p next} : Lowers [.builtin p] next [.builtin p] next
  | slot {n next} : Lowers [.slot n] next [.slot n] next
  | ownMember {name next} :
      Lowers [.member (.builtin .properties) name] next [.property name] next
  | ownIndex {name next} :
      Lowers [.index (.builtin .properties) (.constant (.string name))] next [.property name] next
  | ranging {e p collection body next middle after} (found : e.ranging next = some p)
      (range : Lowers [p.collection] (next + 1) [collection] middle)
      (inner : Lowers [p.body] middle [body] after) :
      Lowers [e] next [.quantified p.quantifier collection next body] after
  | member {target name plan next after} (other : target ≠ .builtin .properties)
      (plain : Expr.pull next target = none) (inner : Lowers [target] next [plan] after) :
      Lowers [.member target name] next [.member plan name] after
  | index {target key plan keyPlan next after}
      (other : ∀ name, target = .builtin .properties → key ≠ .constant (.string name))
      (plain : Expr.pull next target = none)
      (inner : Lowers [target, key] next [plan, keyPlan] after) :
      Lowers [.index target key] next [.index plan keyPlan] after
  | remaining {name arguments ignoreCase position next}
      (special : isRest name arguments ignoreCase = true) :
      Lowers [.call name arguments ignoreCase position] next [.remaining within.referenced] next
  | call {name arguments ignoreCase position f plans next after}
      (plain : Expr.pullFirst next arguments = none)
      (ordinary : isRest name arguments ignoreCase = false)
      (found : Function.resolve? within.resolver name arguments.length ignoreCase = .ok f)
      (inner : Lowers arguments next plans after) :
      Lowers [.call name arguments ignoreCase position] next [.call f plans ignoreCase] after
  | unary {op operand plan next after} (plain : Expr.pull next operand = none)
      (inner : Lowers [operand] next [plan] after) :
      Lowers [.unary op operand] next [.unary op plan] after
  | binary {op left right ignoreCase position plan rightPlan next after}
      (plain : Expr.pullEither next left right = none)
      (inner : Lowers [left, right] next [plan, rightPlan] after) :
      Lowers [.binary op left right ignoreCase position] next
        [.binary op plan rightPlan ignoreCase] after
  | conditional {condition consequent conditionPlan consequentPlan next after}
      {alternative : Option Expr} {alternativePlan : Option Plan}
      (inner : Lowers (condition :: consequent :: alternative.toList) next
        (conditionPlan :: consequentPlan :: alternativePlan.toList) after) :
      Lowers [.conditional condition consequent alternative] next
        [.conditional conditionPlan consequentPlan alternativePlan] after
  | array {elements plans next after}
      (shapes : plans.map Element.shape = elements.map Element.shape)
      (inner : Lowers (elements.map Element.content) next (plans.map Element.content) after) :
      Lowers [.array elements] next [.array plans] after
  | object {members plans next after}
      (shapes : plans.map Member.shape = members.map Member.shape)
      (inner : Lowers (members.map Member.content) next (plans.map Member.content) after) :
      Lowers [.object members] next [.object plans] after

variable {within}

theorem arguments_of_isRest {name : String} {arguments : List Expr} {ignoreCase : Bool}
    (h : isRest name arguments ignoreCase = true) : arguments = [] := by
  simp only [isRest, Bool.and_eq_true, List.isEmpty_iff] at h
  exact h.1.1

-- Whatever an expression ranges over first is lowered first, in a slot of its own.
theorem lower_of_ranging {e : Expr} {next : Nat} {p : Expr.Pulled Expr}
    (h : e.ranging next = some p) :
    within.lower e next = (do
      let (collection, middle) ← within.lower p.collection (next + 1)
      let (body, after) ← within.lower p.body middle
      return (.quantified p.quantifier collection next body, after)) := by
  cases e with
  | member target name =>
      obtain ⟨inner, hinner, rfl⟩ := Option.map_eq_some_iff.mp h
      rw [lower]
      · split
        · rename_i q hq
          obtain rfl : q = inner := Option.some.inj (hq.symm.trans hinner)
          rfl
        · rename_i hq
          cases hq.symm.trans hinner
      · rintro rfl
        cases hinner
  | index target key =>
      obtain ⟨inner, hinner, rfl⟩ := Option.map_eq_some_iff.mp h
      rw [lower]
      · split
        · rename_i q hq
          obtain rfl : q = inner := Option.some.inj (hq.symm.trans hinner)
          rfl
        · rename_i hq
          cases hq.symm.trans hinner
      · rintro _ rfl
        cases hinner
  | wildcard target q =>
      rw [lower]
      unfold Expr.ranging Expr.pull at h
      split
      · rename_i inner hinner
        simp only [hinner, Option.some.injEq] at h
        subst h
        rfl
      · rename_i hnone
        simp only [hnone, Option.some.injEq] at h
        subst h
        simp only [lower]
        rfl
  | call name arguments ignoreCase position =>
      obtain ⟨inner, hinner, rfl⟩ := Option.map_eq_some_iff.mp h
      rw [lower]
      split
      · rename_i q hq
        obtain rfl : q = inner := Option.some.inj (hq.symm.trans hinner)
        rfl
      · rename_i hq
        cases hq.symm.trans hinner
  | unary op operand =>
      obtain ⟨inner, hinner, rfl⟩ := Option.map_eq_some_iff.mp h
      rw [lower]
      split
      · rename_i q hq
        obtain rfl : q = inner := Option.some.inj (hq.symm.trans hinner)
        rfl
      · rename_i hq
        cases hq.symm.trans hinner
  | binary op left right ignoreCase position =>
      obtain ⟨inner, hinner, rfl⟩ := Option.map_eq_some_iff.mp h
      rw [lower]
      split
      · rename_i q hq
        obtain rfl : q = inner := Option.some.inj (hq.symm.trans hinner)
        rfl
      · rename_i hq
        cases hq.symm.trans hinner
  | _ => cases h

@[simp] theorem lower_constant (s : Scalar) (next : Nat) :
    within.lower (.constant s) next = .ok (.constant (.scalar s), next) := by rw [lower]

@[simp] theorem lower_property (name : String) (next : Nat) :
    within.lower (.property name) next = .ok (.property name, next) := by rw [lower]

@[simp] theorem lower_builtin (p : BuiltinProperty) (next : Nat) :
    within.lower (.builtin p) next = .ok (.builtin p, next) := by rw [lower]

@[simp] theorem lower_slot (n next : Nat) :
    within.lower (.slot n) next = .ok (.slot n, next) := by rw [lower]

-- Where nothing is drawn out, the parts are lowered in the order in which they are written.

theorem lower_member {target : Expr} {next : Nat} (other : target ≠ .builtin .properties)
    (plain : Expr.pull next target = none) (name : String) :
    within.lower (.member target name) next = (do
      let (plan, after) ← within.lower target next
      return (.member plan name, after)) := by
  rw [lower]
  · split
    · rename_i p found
      cases plain.symm.trans found
    · rfl
  · exact other

theorem lower_index {target key : Expr} {next : Nat}
    (other : ∀ name, target = .builtin .properties → key ≠ .constant (.string name))
    (plain : Expr.pull next target = none) :
    within.lower (.index target key) next = (do
      let (plan, middle) ← within.lower target next
      let (keyPlan, after) ← within.lower key middle
      return (.index plan keyPlan, after)) := by
  rw [lower]
  · split
    · rename_i p found
      cases plain.symm.trans found
    · rfl
  · exact other

theorem lower_call {arguments : List Expr} {next : Nat}
    (plain : Expr.pullFirst next arguments = none) (name : String) (ignoreCase : Bool)
    (position : Nat) :
    within.lower (.call name arguments ignoreCase position) next = (do
      if isRest name arguments ignoreCase then return (.remaining within.referenced, next)
      let f ← Function.resolve within.resolver name arguments.length ignoreCase position
      let (plans, after) ← within.lowerAll arguments next
      return (.call f plans ignoreCase, after)) := by
  rw [lower]
  split
  · rename_i p found
    cases plain.symm.trans found
  · rfl

theorem lower_unary {operand : Expr} {next : Nat} (plain : Expr.pull next operand = none)
    (op : UnaryOp) :
    within.lower (.unary op operand) next = (do
      let (plan, after) ← within.lower operand next
      return (.unary op plan, after)) := by
  rw [lower]
  split
  · rename_i p found
    cases plain.symm.trans found
  · rfl

theorem lower_binary {left right : Expr} {next : Nat}
    (plain : Expr.pullEither next left right = none) (op : BinaryOp) (ignoreCase : Bool)
    (position : Nat) :
    within.lower (.binary op left right ignoreCase position) next = (do
      let (plan, middle) ← within.lower left next
      let (rightPlan, after) ← within.lower right middle
      return (.binary op plan rightPlan ignoreCase, after)) := by
  rw [lower]
  split
  · rename_i p found
    cases plain.symm.trans found
  · rfl

private theorem lowers_of_lowerAll {es : List Expr}
    (hes : ∀ e ∈ es, ∀ next plan after,
      within.lower e next = .ok (plan, after) → within.Lowers [e] next [plan] after)
    {next : Nat} {plans : List Plan} {after : Nat}
    (h : within.lowerAll es next = .ok (plans, after)) : within.Lowers es next plans after := by
  induction es generalizing next plans with
  | nil =>
      rw [lowerAll] at h
      cases h
      exact .nil
  | cons e rest ih =>
      simp only [lowerAll, bind_eq_ok, pure_eq_ok] at h
      obtain ⟨⟨plan, middle⟩, hfirst, ⟨others, last⟩, hothers, h⟩ := h
      cases h
      exact .cons (hes e List.mem_cons_self _ _ _ hfirst)
        (ih (fun other hother => hes other (List.mem_cons_of_mem _ hother)) hothers)

-- Elements and members are lowered as a list of their expressions is, and keep their shapes.

theorem lowerElements_eq_ok {elements : List (Element Expr)} {next after : Nat}
    {plans : List (Element Plan)} (h : within.lowerElements elements next = .ok (plans, after)) :
    plans.map Element.shape = elements.map Element.shape ∧
      within.lowerAll (elements.map Element.content) next
        = .ok (plans.map Element.content, after) := by
  induction elements generalizing next plans with
  | nil =>
      rw [lowerElements] at h
      cases h
      exact ⟨rfl, by simp [lowerAll]⟩
  | cons element rest ih =>
      cases element <;>
      · simp only [lowerElements, bind_eq_ok, pure_eq_ok] at h
        obtain ⟨⟨plan, middle⟩, hfirst, ⟨others, last⟩, hothers, h⟩ := h
        cases h
        obtain ⟨shapes, hrest⟩ := ih hothers
        refine ⟨congrArg _ shapes, ?_⟩
        simp only [List.map_cons, lowerAll, bind_eq_ok, pure_eq_ok]
        exact ⟨_, hfirst, _, hrest, rfl⟩

theorem lowerElements_eq_error {elements : List (Element Expr)} {next : Nat}
    {failed : TemplateError} (h : within.lowerElements elements next = .error failed) :
    within.lowerAll (elements.map Element.content) next = .error failed := by
  induction elements generalizing next with
  | nil =>
      rw [lowerElements] at h
      cases h
  | cons element rest ih =>
      cases element <;>
      · rw [lowerElements] at h
        rw [List.map_cons, lowerAll]
        rcases bind_eq_error.mp h with hfirst | ⟨_, hfirst, h⟩
        · exact bind_eq_error.mpr (.inl hfirst)
        · rcases bind_eq_error.mp h with hrest | ⟨_, -, h⟩
          · exact bind_eq_error.mpr (.inr ⟨_, hfirst, bind_eq_error.mpr (.inl (ih hrest))⟩)
          · cases h

theorem lowerMembers_eq_ok {members : List (Member Expr)} {next after : Nat}
    {plans : List (Member Plan)} (h : within.lowerMembers members next = .ok (plans, after)) :
    plans.map Member.shape = members.map Member.shape ∧
      within.lowerAll (members.map Member.content) next
        = .ok (plans.map Member.content, after) := by
  induction members generalizing next plans with
  | nil =>
      rw [lowerMembers] at h
      cases h
      exact ⟨rfl, by simp [lowerAll]⟩
  | cons member rest ih =>
      cases member <;>
      · simp only [lowerMembers, bind_eq_ok, pure_eq_ok] at h
        obtain ⟨⟨plan, middle⟩, hfirst, ⟨others, last⟩, hothers, h⟩ := h
        cases h
        obtain ⟨shapes, hrest⟩ := ih hothers
        refine ⟨congrArg _ shapes, ?_⟩
        simp only [List.map_cons, lowerAll, bind_eq_ok, pure_eq_ok]
        exact ⟨_, hfirst, _, hrest, rfl⟩

theorem lowerMembers_eq_error {members : List (Member Expr)} {next : Nat}
    {failed : TemplateError} (h : within.lowerMembers members next = .error failed) :
    within.lowerAll (members.map Member.content) next = .error failed := by
  induction members generalizing next with
  | nil =>
      rw [lowerMembers] at h
      cases h
  | cons member rest ih =>
      cases member <;>
      · rw [lowerMembers] at h
        rw [List.map_cons, lowerAll]
        rcases bind_eq_error.mp h with hfirst | ⟨_, hfirst, h⟩
        · exact bind_eq_error.mpr (.inl hfirst)
        · rcases bind_eq_error.mp h with hrest | ⟨_, -, h⟩
          · exact bind_eq_error.mpr (.inr ⟨_, hfirst, bind_eq_error.mpr (.inl (ih hrest))⟩)
          · cases h

-- What the lowering of each form comes from where nothing is drawn out of it: its plan from the
-- plans of its children, its error from that of a child.

theorem lower_member_eq_ok {target : Expr} {name : String} {next after : Nat} {plan : Plan}
    (plain : Expr.pull next target = none)
    (h : within.lower (.member target name) next = .ok (plan, after)) :
    (target = .builtin .properties ∧ plan = .property name ∧ after = next) ∨
      target ≠ .builtin .properties ∧ ∃ inner, plan = .member inner name ∧
        within.lowerAll [target] next = .ok ([inner], after) := by
  by_cases own : target = .builtin .properties
  · subst own
    rw [lower] at h
    cases h
    exact .inl ⟨rfl, rfl, rfl⟩
  · simp only [lower_member own plain, bind_eq_ok, pure_eq_ok] at h
    obtain ⟨⟨inner, last⟩, hinner, h⟩ := h
    cases h
    exact .inr ⟨own, inner, rfl, by simp [lowerAll, hinner]⟩

theorem lower_member_eq_error {target : Expr} {name : String} {next : Nat}
    {failed : TemplateError} (plain : Expr.pull next target = none)
    (h : within.lower (.member target name) next = .error failed) :
    within.lowerAll [target] next = .error failed := by
  by_cases own : target = .builtin .properties
  · subst own
    rw [lower] at h
    cases h
  · simpa [lower_member own plain, lowerAll, bind_eq_error] using h

theorem lower_index_eq_ok {target key : Expr} {next after : Nat} {plan : Plan}
    (plain : Expr.pull next target = none)
    (h : within.lower (.index target key) next = .ok (plan, after)) :
    (∃ name, target = .builtin .properties ∧ key = .constant (.string name) ∧
        plan = .property name ∧ after = next) ∨
      (∀ name, target = .builtin .properties → key ≠ .constant (.string name)) ∧
        ∃ inner keyPlan, plan = .index inner keyPlan ∧
          within.lowerAll [target, key] next = .ok ([inner, keyPlan], after) := by
  by_cases own : ∃ name, target = .builtin .properties ∧ key = .constant (.string name)
  · obtain ⟨name, rfl, rfl⟩ := own
    rw [lower] at h
    cases h
    exact .inl ⟨name, rfl, rfl, rfl, rfl⟩
  · have other : ∀ name, target = .builtin .properties → key ≠ .constant (.string name) :=
      fun name ht hk => own ⟨name, ht, hk⟩
    simp only [lower_index other plain, bind_eq_ok, pure_eq_ok] at h
    obtain ⟨⟨inner, middle⟩, hinner, ⟨keyPlan, last⟩, hkey, h⟩ := h
    cases h
    exact .inr ⟨other, inner, keyPlan, rfl, by simp [lowerAll, hinner, hkey]⟩

theorem lower_index_eq_error {target key : Expr} {next : Nat} {failed : TemplateError}
    (plain : Expr.pull next target = none)
    (h : within.lower (.index target key) next = .error failed) :
    within.lowerAll [target, key] next = .error failed := by
  by_cases own : ∃ name, target = .builtin .properties ∧ key = .constant (.string name)
  · obtain ⟨name, rfl, rfl⟩ := own
    rw [lower] at h
    cases h
  · simpa [lower_index (fun name ht hk => own ⟨name, ht, hk⟩) plain, lowerAll, bind_eq_error]
      using h

theorem lower_call_eq_ok {name : String} {arguments : List Expr} {ignoreCase : Bool}
    {position next after : Nat} {plan : Plan} (plain : Expr.pullFirst next arguments = none)
    (h : within.lower (.call name arguments ignoreCase position) next = .ok (plan, after)) :
    (isRest name arguments ignoreCase = true ∧ plan = .remaining within.referenced ∧
        after = next) ∨
      isRest name arguments ignoreCase = false ∧ ∃ f plans, plan = .call f plans ignoreCase ∧
        Function.resolve? within.resolver name arguments.length ignoreCase = .ok f ∧
        within.lowerAll arguments next = .ok (plans, after) := by
  rw [lower_call plain] at h
  cases special : isRest name arguments ignoreCase with
  | true =>
      rw [if_pos special] at h
      cases h
      exact .inl ⟨rfl, rfl, rfl⟩
  | false =>
      simp only [special, Bool.false_eq_true, if_false, bind_eq_ok, pure_eq_ok, Function.resolve,
        mapError_eq_ok] at h
      obtain ⟨f, hf, ⟨plans, last⟩, hplans, h⟩ := h
      cases h
      exact .inr ⟨rfl, f, plans, rfl, hf, hplans⟩

-- A call can also fail by itself.
theorem lower_call_eq_error {name : String} {arguments : List Expr} {ignoreCase : Bool}
    {position next : Nat} {failed : TemplateError} (plain : Expr.pullFirst next arguments = none)
    (h : within.lower (.call name arguments ignoreCase position) next = .error failed) :
    (isRest name arguments ignoreCase = false ∧ ∃ fault,
        Function.resolve? within.resolver name arguments.length ignoreCase = .error fault ∧
        failed = .resolution fault name arguments.length position) ∨
      within.lowerAll arguments next = .error failed := by
  rw [lower_call plain] at h
  cases special : isRest name arguments ignoreCase with
  | true =>
      rw [if_pos special] at h
      cases h
  | false =>
      simp only [special, Bool.false_eq_true, if_false] at h
      rcases bind_eq_error.mp h with hresolve | ⟨f, -, h⟩
      · obtain ⟨fault, hfault, rfl⟩ := mapError_eq_error.mp hresolve
        exact .inl ⟨rfl, fault, hfault, rfl⟩
      · exact .inr (by simpa using h)

theorem lower_unary_eq_ok {op : UnaryOp} {operand : Expr} {next after : Nat} {plan : Plan}
    (plain : Expr.pull next operand = none)
    (h : within.lower (.unary op operand) next = .ok (plan, after)) :
    ∃ inner, plan = .unary op inner ∧
      within.lowerAll [operand] next = .ok ([inner], after) := by
  simp only [lower_unary plain, bind_eq_ok, pure_eq_ok] at h
  obtain ⟨⟨inner, last⟩, hinner, h⟩ := h
  cases h
  exact ⟨inner, rfl, by simp [lowerAll, hinner]⟩

theorem lower_unary_eq_error {op : UnaryOp} {operand : Expr} {next : Nat}
    {failed : TemplateError} (plain : Expr.pull next operand = none)
    (h : within.lower (.unary op operand) next = .error failed) :
    within.lowerAll [operand] next = .error failed := by
  simpa [lower_unary plain, lowerAll, bind_eq_error] using h

theorem lower_binary_eq_ok {op : BinaryOp} {left right : Expr} {ignoreCase : Bool}
    {position next after : Nat} {plan : Plan} (plain : Expr.pullEither next left right = none)
    (h : within.lower (.binary op left right ignoreCase position) next = .ok (plan, after)) :
    ∃ leftPlan rightPlan, plan = .binary op leftPlan rightPlan ignoreCase ∧
      within.lowerAll [left, right] next = .ok ([leftPlan, rightPlan], after) := by
  simp only [lower_binary plain, bind_eq_ok, pure_eq_ok] at h
  obtain ⟨⟨leftPlan, middle⟩, hleft, ⟨rightPlan, last⟩, hright, h⟩ := h
  cases h
  exact ⟨leftPlan, rightPlan, rfl, by simp [lowerAll, hleft, hright]⟩

theorem lower_binary_eq_error {op : BinaryOp} {left right : Expr} {ignoreCase : Bool}
    {position next : Nat} {failed : TemplateError}
    (plain : Expr.pullEither next left right = none)
    (h : within.lower (.binary op left right ignoreCase position) next = .error failed) :
    within.lowerAll [left, right] next = .error failed := by
  simpa [lower_binary plain, lowerAll, bind_eq_error] using h

theorem lower_conditional_eq_ok {condition consequent : Expr} {alternative : Option Expr}
    {next after : Nat} {plan : Plan}
    (h : within.lower (.conditional condition consequent alternative) next = .ok (plan, after)) :
    ∃ conditionPlan consequentPlan alternativePlan,
      plan = .conditional conditionPlan consequentPlan alternativePlan ∧
      within.lowerAll (condition :: consequent :: alternative.toList) next
        = .ok (conditionPlan :: consequentPlan :: alternativePlan.toList, after) := by
  cases alternative with
  | none =>
      simp only [lower, bind_eq_ok, pure_eq_ok] at h
      obtain ⟨⟨conditionPlan, middle⟩, hcondition, ⟨consequentPlan, last⟩, hconsequent, h⟩ := h
      cases h
      exact ⟨_, _, none, rfl, by simp [lowerAll, hcondition, hconsequent]⟩
  | some alternative =>
      simp only [lower, bind_eq_ok, pure_eq_ok] at h
      obtain ⟨⟨conditionPlan, middle⟩, hcondition, ⟨consequentPlan, second⟩, hconsequent,
        ⟨alternativePlan, last⟩, halternative, h⟩ := h
      cases h
      exact ⟨_, _, some alternativePlan, rfl,
        by simp [lowerAll, hcondition, hconsequent, halternative]⟩

theorem lower_conditional_eq_error {condition consequent : Expr} {alternative : Option Expr}
    {next : Nat} {failed : TemplateError}
    (h : within.lower (.conditional condition consequent alternative) next = .error failed) :
    within.lowerAll (condition :: consequent :: alternative.toList) next = .error failed := by
  cases alternative <;> simpa [lower, lowerAll, bind_eq_error] using h

theorem lower_array_eq_ok {elements : List (Element Expr)} {next after : Nat} {plan : Plan}
    (h : within.lower (.array elements) next = .ok (plan, after)) :
    ∃ plans, plan = .array plans ∧ plans.map Element.shape = elements.map Element.shape ∧
      within.lowerAll (elements.map Element.content) next
        = .ok (plans.map Element.content, after) := by
  simp only [lower, bind_eq_ok, pure_eq_ok] at h
  obtain ⟨⟨plans, last⟩, hplans, h⟩ := h
  cases h
  exact ⟨plans, rfl, lowerElements_eq_ok hplans⟩

theorem lower_array_eq_error {elements : List (Element Expr)} {next : Nat}
    {failed : TemplateError} (h : within.lower (.array elements) next = .error failed) :
    within.lowerAll (elements.map Element.content) next = .error failed := by
  rw [lower] at h
  rcases bind_eq_error.mp h with helements | ⟨_, -, h⟩
  · exact lowerElements_eq_error helements
  · cases h

theorem lower_object_eq_ok {members : List (Member Expr)} {next after : Nat} {plan : Plan}
    (h : within.lower (.object members) next = .ok (plan, after)) :
    ∃ plans, plan = .object plans ∧ plans.map Member.shape = members.map Member.shape ∧
      within.lowerAll (members.map Member.content) next
        = .ok (plans.map Member.content, after) := by
  simp only [lower, bind_eq_ok, pure_eq_ok] at h
  obtain ⟨⟨plans, last⟩, hplans, h⟩ := h
  cases h
  exact ⟨plans, rfl, lowerMembers_eq_ok hplans⟩

theorem lower_object_eq_error {members : List (Member Expr)} {next : Nat}
    {failed : TemplateError} (h : within.lower (.object members) next = .error failed) :
    within.lowerAll (members.map Member.content) next = .error failed := by
  rw [lower] at h
  rcases bind_eq_error.mp h with hmembers | ⟨_, -, h⟩
  · exact lowerMembers_eq_error hmembers
  · cases h

private theorem lowers_of_not_ranging {e : Expr} {next : Nat} {plan : Plan} {after : Nat}
    (hranging : e.ranging next = none)
    (inner : ∀ c ∈ e.children, ∀ next plan after,
      within.lower c next = .ok (plan, after) → within.Lowers [c] next [plan] after)
    (h : within.lower e next = .ok (plan, after)) : within.Lowers [e] next [plan] after := by
  cases e with
  | constant s =>
      cases (lower_constant s next).symm.trans h
      exact .constant
  | property name =>
      cases (lower_property name next).symm.trans h
      exact .property
  | builtin p =>
      cases (lower_builtin p next).symm.trans h
      exact .builtin
  | slot n =>
      cases (lower_slot n next).symm.trans h
      exact .slot
  | member target name =>
      have plain : Expr.pull next target = none := Option.map_eq_none_iff.mp hranging
      obtain ⟨rfl, rfl, rfl⟩ | ⟨other, _, rfl, htarget⟩ := lower_member_eq_ok plain h
      · exact .ownMember
      · exact .member other plain (lowers_of_lowerAll inner htarget)
  | index target key =>
      have plain : Expr.pull next target = none := Option.map_eq_none_iff.mp hranging
      obtain ⟨_, rfl, rfl, rfl, rfl⟩ | ⟨other, _, _, rfl, hboth⟩ := lower_index_eq_ok plain h
      · exact .ownIndex
      · exact .index other plain (lowers_of_lowerAll inner hboth)
  | wildcard target q => exact absurd hranging (Expr.ranging_wildcard_ne_none target q next)
  | call name arguments ignoreCase position =>
      have plain : Expr.pullFirst next arguments = none := Option.map_eq_none_iff.mp hranging
      obtain ⟨special, rfl, rfl⟩ | ⟨ordinary, _, _, rfl, hf, harguments⟩ := lower_call_eq_ok plain h
      · exact .remaining special
      · exact .call plain ordinary hf (lowers_of_lowerAll inner harguments)
  | unary op operand =>
      have plain : Expr.pull next operand = none := Option.map_eq_none_iff.mp hranging
      obtain ⟨_, rfl, hoperand⟩ := lower_unary_eq_ok plain h
      exact .unary plain (lowers_of_lowerAll inner hoperand)
  | binary op left right ignoreCase position =>
      have plain : Expr.pullEither next left right = none := Option.map_eq_none_iff.mp hranging
      obtain ⟨_, _, rfl, hboth⟩ := lower_binary_eq_ok plain h
      exact .binary plain (lowers_of_lowerAll inner hboth)
  | conditional condition consequent alternative =>
      obtain ⟨_, _, _, rfl, hall⟩ := lower_conditional_eq_ok h
      exact .conditional (lowers_of_lowerAll inner hall)
  | array elements =>
      obtain ⟨_, rfl, shapes, hcontents⟩ := lower_array_eq_ok h
      exact .array shapes (lowers_of_lowerAll inner hcontents)
  | object members =>
      obtain ⟨_, rfl, shapes, hcontents⟩ := lower_object_eq_ok h
      exact .object shapes (lowers_of_lowerAll inner hcontents)

-- Lowering by the function is lowering by the rules. The induction is on the number of nodes, as
-- an expression that ranges is lowered from two smaller ones that are no parts of it.
theorem lowers_of_lower {e : Expr} {next : Nat} {plan : Plan} {after : Nat}
    (h : within.lower e next = .ok (plan, after)) : within.Lowers [e] next [plan] after := by
  induction hsize : e.size using Nat.strongRecOn generalizing e next plan after with
  | ind size ih =>
      subst hsize
      have smaller : ∀ c, c.size < e.size → ∀ next plan after,
          within.lower c next = .ok (plan, after) → within.Lowers [c] next [plan] after :=
        fun c hc next plan after h => ih c.size hc h rfl
      have inner : ∀ c ∈ e.children, ∀ next plan after,
          within.lower c next = .ok (plan, after) → within.Lowers [c] next [plan] after :=
        fun c hc => smaller c (Expr.size_child hc)
      cases hranging : e.ranging next with
      | some p =>
          obtain ⟨hcollection, hbody⟩ := Expr.size_ranging hranging
          simp only [lower_of_ranging hranging, bind_eq_ok, pure_eq_ok] at h
          obtain ⟨⟨collection, middle⟩, hc, ⟨body, last⟩, hb, h⟩ := h
          cases h
          exact .ranging hranging (smaller _ hcollection _ _ _ hc) (smaller _ hbody _ _ _ hb)
      | none => exact lowers_of_not_ranging hranging inner h

-- Slots are handed out in ascending order.
theorem Lowers.next_le {es : List Expr} {next : Nat} {plans : List Plan} {after : Nat}
    (h : within.Lowers es next plans after) : next ≤ after := by
  induction h with
  | cons _ _ hfirst hothers => exact Nat.le_trans hfirst hothers
  | ranging _ _ _ hrange hinner => omega
  | nil | constant | property | builtin | slot | ownMember | ownIndex | remaining =>
      exact Nat.le_refl _
  | _ => assumption

end Surroundings

end EventText
