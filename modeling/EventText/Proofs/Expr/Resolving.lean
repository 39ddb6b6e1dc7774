import EventText.Proofs.Expr.Calls
import EventText.Proofs.Expr.Evaluation

namespace EventText

-- What runs when a call is evaluated.
inductive Target
  | function (f : Function)
  | remaining

namespace Call

-- What a call is resolved to: `rest()` always to itself, every other call by its name.
def target (resolver : Resolver) (call : Call) : Except ResolveFault Target :=
  if call.isRest then .ok .remaining
  else (Function.resolve? resolver call.name call.arity call.ignoreCase).map .function

theorem target_eq_error {resolver : Resolver} {call : Call} {fault : ResolveFault} :
    call.target resolver = .error fault ↔ call.isRest = false ∧
      Function.resolve? resolver call.name call.arity call.ignoreCase = .error fault := by
  cases hrest : call.isRest with
  | true => simp [target, hrest]
  | false =>
      cases hresolve : Function.resolve? resolver call.name call.arity call.ignoreCase <;>
        simp [target, hrest, hresolve, Except.map]

-- The error is about a call that does not resolve, and names it.
def Reported (resolver : Resolver) (calls : List Call) (failed : TemplateError) : Prop :=
  ∃ call ∈ calls, ∃ fault, call.target resolver = .error fault ∧
    failed = .resolution fault call.name call.arity call.position

theorem Reported.mono {resolver : Resolver} {calls more : List Call} {failed : TemplateError}
    (h : Reported resolver calls failed) (hsub : calls ⊆ more) : Reported resolver more failed := by
  obtain ⟨call, hcall, hfault⟩ := h
  exact ⟨call, hsub hcall, hfault⟩

theorem Reported.left {resolver : Resolver} {calls : List Call} {failed : TemplateError}
    (h : Reported resolver calls failed) (more : List Call) :
    Reported resolver (calls ++ more) failed := h.mono (List.subset_append_left _ _)

theorem Reported.right {resolver : Resolver} {calls : List Call} {failed : TemplateError}
    (h : Reported resolver calls failed) (before : List Call) :
    Reported resolver (before ++ calls) failed := h.mono (List.subset_append_right _ _)

theorem isRest_eq (name : String) (arguments : List Expr) (ignoreCase : Bool) (position : Nat) :
    isRest ⟨name, arguments.length, ignoreCase, position⟩
      = Surroundings.isRest name arguments ignoreCase := by
  cases arguments <;> rfl

end Call

namespace Plan

def ownTargets : Plan → List Target
  | .call f _ _ => [.function f]
  | .remaining _ => [.remaining]
  | _ => []

-- What runs when a plan is evaluated with all its parts.
def targets (plan : Plan) : List Target :=
  plan.ownTargets ++ plan.parts.attach.flatMap fun part => targets part.1
termination_by sizeOf plan
decreasing_by exact sizeOf_part part.2

theorem targets_eq (plan : Plan) :
    plan.targets = plan.ownTargets ++ plan.parts.flatMap targets := by
  rw [targets]
  simp

theorem targets_of_parts {plan : Plan} (h : plan.ownTargets = []) :
    plan.targets = plan.parts.flatMap targets := by
  rw [targets_eq, h, List.nil_append]

end Plan

namespace Surroundings

variable {within : Surroundings}

-- Lowering fails at a call that does not resolve, wherever the call has been moved.

private theorem reported_lowerAll {es : List Expr}
    (hes : ∀ e ∈ es, ∀ next failed, within.lower e next = .error failed →
      Call.Reported within.resolver e.calls failed) {next : Nat} {failed : TemplateError}
    (h : within.lowerAll es next = .error failed) :
    ∃ e ∈ es, Call.Reported within.resolver e.calls failed := by
  induction es generalizing next with
  | nil =>
      rw [lowerAll] at h
      cases h
  | cons e rest ih =>
      rw [lowerAll] at h
      rcases bind_eq_error.mp h with hfirst | ⟨_, -, h⟩
      · exact ⟨e, List.mem_cons_self, hes e List.mem_cons_self _ _ hfirst⟩
      · rcases bind_eq_error.mp h with hrest | ⟨_, -, h⟩
        · obtain ⟨other, hother, hreported⟩ :=
            ih (fun other hother => hes other (List.mem_cons_of_mem _ hother)) hrest
          exact ⟨other, List.mem_cons_of_mem _ hother, hreported⟩
        · cases h

-- Without a wildcard to pull out, either the expression is a call that does not resolve, or one of
-- its children could not be lowered.
private theorem reported_of_not_ranging {e : Expr} {next : Nat} {failed : TemplateError}
    (hranging : e.ranging next = none)
    (inner : ∀ c ∈ e.children, ∀ next failed, within.lower c next = .error failed →
      Call.Reported within.resolver c.calls failed)
    (h : within.lower e next = .error failed) :
    Call.Reported within.resolver e.calls failed := by
  have inside (hchildren : within.lowerAll e.children next = .error failed) :
      Call.Reported within.resolver e.calls failed := by
    obtain ⟨c, hc, hreported⟩ := reported_lowerAll inner hchildren
    exact hreported.mono (Expr.calls_child hc)
  cases e with
  | member target name =>
      exact inside (lower_member_eq_error (Option.map_eq_none_iff.mp hranging) h)
  | index target key => exact inside (lower_index_eq_error (Option.map_eq_none_iff.mp hranging) h)
  | wildcard target q => exact absurd hranging (Expr.ranging_wildcard_ne_none target q next)
  | call name arguments ignoreCase position =>
      obtain ⟨ordinary, fault, hfault, rfl⟩ | harguments :=
        lower_call_eq_error (Option.map_eq_none_iff.mp hranging) h
      · refine ⟨⟨name, arguments.length, ignoreCase, position⟩, ?_, fault, ?_, rfl⟩
        · rw [Expr.calls_eq]
          exact List.mem_append_left _ List.mem_cons_self
        · rw [Call.target_eq_error, Call.isRest_eq]
          exact ⟨ordinary, hfault⟩
      · exact inside harguments
  | unary op operand => exact inside (lower_unary_eq_error (Option.map_eq_none_iff.mp hranging) h)
  | binary op left right ignoreCase position =>
      exact inside (lower_binary_eq_error (Option.map_eq_none_iff.mp hranging) h)
  | conditional condition consequent alternative => exact inside (lower_conditional_eq_error h)
  | array elements => exact inside (lower_array_eq_error h)
  | object members => exact inside (lower_object_eq_error h)
  | _ =>
      rw [lower] at h
      cases h

theorem reported_of_lower {e : Expr} {next : Nat} {failed : TemplateError}
    (h : within.lower e next = .error failed) : Call.Reported within.resolver e.calls failed := by
  induction hsize : e.size using Nat.strongRecOn generalizing e next failed with
  | ind size ih =>
      subst hsize
      have smaller : ∀ c : Expr, c.size < e.size → ∀ next failed,
          within.lower c next = .error failed → Call.Reported within.resolver c.calls failed :=
        fun c hc next failed h => ih c.size hc h rfl
      cases hranging : e.ranging next with
      | some p =>
          obtain ⟨hcollection, hbody⟩ := Expr.size_ranging hranging
          have hcalls := (Expr.calls_ranging hranging).subset
          rw [lower_of_ranging hranging] at h
          rcases bind_eq_error.mp h with hfailed | ⟨_, -, h⟩
          · have hreported := smaller _ hcollection _ _ hfailed
            exact (hreported.left _).mono hcalls
          · rcases bind_eq_error.mp h with hfailed | ⟨_, -, h⟩
            · have hreported := smaller _ hbody _ _ hfailed
              exact (hreported.right _).mono hcalls
            · cases h
      | none =>
          exact reported_of_not_ranging hranging (fun c hc => smaller c (Expr.size_child hc)) h

-- Every child is lowered to a part, and a call to the function that it was resolved to.
private theorem targets_of_lowers {es : List Expr} {next : Nat} {plans : List Plan} {after : Nat}
    (h : within.Lowers es next plans after) :
    ((plans.flatMap Plan.targets).map .ok).Perm
      ((es.flatMap Expr.calls).map (Call.target within.resolver)) := by
  have inside {e : Expr} {plan : Plan} (hcalls : e.ownCalls = []) (htargets : plan.ownTargets = [])
      (hinner : ((plan.parts.flatMap Plan.targets).map .ok).Perm
        ((e.children.flatMap Expr.calls).map (Call.target within.resolver))) :
      (([plan].flatMap Plan.targets).map .ok).Perm
        (([e].flatMap Expr.calls).map (Call.target within.resolver)) := by
    simp only [List.flatMap_singleton, Expr.calls_of_children hcalls,
      Plan.targets_of_parts htargets]
    exact hinner
  induction h with
  | nil => exact .nil
  | cons _ _ hfirst hothers =>
      rw [List.flatMap_singleton, List.flatMap_singleton] at hfirst
      simp only [List.flatMap_cons, List.map_append]
      exact hfirst.append hothers
  | constant | property | builtin | slot => exact inside rfl rfl .nil
  | ownMember =>
      have hown : (Expr.builtin .properties).calls = [] := Expr.calls_of_leaf rfl rfl
      refine inside rfl rfl ?_
      simp [Expr.children, Plan.parts, hown]
  | @ownIndex name =>
      have hown : (Expr.builtin .properties).calls = [] := Expr.calls_of_leaf rfl rfl
      have hname : (Expr.constant (.string name)).calls = [] := Expr.calls_of_leaf rfl rfl
      refine inside rfl rfl ?_
      simp [Expr.children, Plan.parts, hown, hname]
  | ranging found _ _ hrange hinner =>
      have hcalls := (Expr.calls_ranging found).map (Call.target within.resolver)
      simp only [List.flatMap_singleton, List.map_append] at hrange hinner hcalls ⊢
      rw [Plan.targets_of_parts rfl]
      simp only [Plan.parts, List.flatMap_cons, List.flatMap_nil, List.append_nil, List.map_append]
      exact (hrange.append hinner).trans hcalls
  | @remaining name arguments ignoreCase position next special =>
      obtain rfl := arguments_of_isRest special
      have htarget : Call.target within.resolver ⟨name, 0, ignoreCase, position⟩
          = .ok .remaining := by
        rw [Call.target, if_pos]
        exact (Call.isRest_eq name [] ignoreCase position).trans special
      rw [List.flatMap_singleton, List.flatMap_singleton, Plan.targets_eq, Expr.calls_eq]
      simp [Plan.ownTargets, Plan.parts, Expr.ownCalls, Expr.children, htarget]
  | @call name arguments ignoreCase position f plans next after _ ordinary found _ hinner =>
      have htarget : Call.target within.resolver ⟨name, arguments.length, ignoreCase, position⟩
          = .ok (.function f) := by
        rw [Call.target, Call.isRest_eq, ordinary, if_neg Bool.false_ne_true, found]
        rfl
      simp only [List.flatMap_singleton]
      rw [Plan.targets_eq, Expr.calls_eq]
      simp only [Plan.ownTargets, Plan.parts, Expr.ownCalls, Expr.children, List.map_append,
        List.map_cons, List.map_nil, htarget]
      exact hinner.append_left _
  | member _ _ _ ih | index _ _ _ ih | unary _ _ ih | binary _ _ ih | conditional _ ih =>
      exact inside rfl rfl ih
  | array _ _ ih | object _ _ ih => exact inside rfl rfl ih

-- What runs in a plan is what the calls of its expression are resolved to, each as often as it is
-- called.
theorem targets_of_lower {e : Expr} {next : Nat} {plan : Plan} {after : Nat}
    (h : within.lower e next = .ok (plan, after)) :
    (plan.targets.map .ok).Perm (e.calls.map (Call.target within.resolver)) := by
  have hperm := targets_of_lowers (lowers_of_lower h)
  simp only [List.flatMap_singleton] at hperm
  exact hperm

theorem resolves_of_lower {e : Expr} {next after : Nat} {plan : Plan}
    (h : within.lower e next = .ok (plan, after)) :
    ∀ call ∈ e.calls, ∃ target, call.target within.resolver = .ok target := by
  intro call hcall
  have htarget := (targets_of_lower h).mem_iff.mpr (List.mem_map_of_mem hcall)
  obtain ⟨target, -, hresolved⟩ := List.mem_map.mp htarget
  exact ⟨target, hresolved.symm⟩

-- If all calls resolve then the expression can be lowered.
theorem exists_lower {e : Expr}
    (h : ∀ call ∈ e.calls, ∃ target, call.target within.resolver = .ok target) (next : Nat) :
    ∃ plan after, within.lower e next = .ok (plan, after) := by
  cases hlower : within.lower e next with
  | ok lowered => exact ⟨lowered.1, lowered.2, rfl⟩
  | error failed =>
      obtain ⟨call, hcall, fault, hfault, -⟩ := reported_of_lower hlower
      obtain ⟨target, htarget⟩ := h call hcall
      cases htarget.symm.trans hfault

end Surroundings

namespace Expr

theorem slotsBelow_of_children {e : Expr} {next : Nat} (hne : ∀ n, e ≠ .slot n)
    (h : ∀ c ∈ e.children, c.SlotsBelow next) : e.SlotsBelow next := by
  intro n hn
  obtain ⟨c, hc, hdeep⟩ := hn.exists_child (hne n).symm
  exact h c hc n hdeep

end Expr

namespace Surroundings

-- An expression gives an outcome if it can be lowered, with `next` as the first free slot, and its
-- plan has that value.
def Gives (within : Surroundings) (next : Nat) (scope : Scope) (e : Expr) (o : Outcome) : Prop :=
  ∃ plan after, within.lower e next = .ok (plan, after) ∧ plan.eval scope = o

variable {within : Surroundings} {next : Nat} {scope : Scope} {e : Expr} {o : Outcome}

theorem Gives.eq_meaning (h : within.Gives next scope e o) (hbelow : e.SlotsBelow next) :
    o = e.meaning within scope.environment := by
  obtain ⟨plan, after, hlower, rfl⟩ := h
  exact eval_lower hlower hbelow scope

theorem Gives.resolves (h : within.Gives next scope e o) :
    ∀ call ∈ e.calls, ∃ target, call.target within.resolver = .ok target := by
  obtain ⟨plan, after, hlower, -⟩ := h
  exact resolves_of_lower hlower

theorem gives_meaning
    (hresolves : ∀ call ∈ e.calls, ∃ target, call.target within.resolver = .ok target)
    (hbelow : e.SlotsBelow next) :
    within.Gives next scope e (e.meaning within scope.environment) := by
  obtain ⟨plan, after, hlower⟩ := exists_lower hresolves next
  exact ⟨plan, after, hlower, eval_lower hlower hbelow scope⟩

-- What stands inside of an expression gives something on its own.
theorem Gives.child (h : within.Gives next scope e o) (hbelow : e.SlotsBelow next) {c : Expr}
    (hc : c ∈ e.children) : within.Gives next scope c (c.meaning within scope.environment) :=
  gives_meaning (fun call hcall => h.resolves call (Expr.calls_child hc hcall)) (hbelow.child hc)

theorem gives_of_children (hcalls : e.ownCalls = []) (hbelow : e.SlotsBelow next)
    (h : ∀ c ∈ e.children, ∃ o, within.Gives next scope c o) :
    within.Gives next scope e (e.meaning within scope.environment) := by
  refine gives_meaning (fun call hcall => ?_) hbelow
  rw [Expr.calls_of_children hcalls] at hcall
  obtain ⟨c, hc, hcall⟩ := List.mem_flatMap.mp hcall
  obtain ⟨o, hgives⟩ := h c hc
  exact hgives.resolves call hcall

end Surroundings

end EventText
