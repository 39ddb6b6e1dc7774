import EventText.Proofs.Expr.Resolving
import EventText.Template.Render

namespace EventText

-- Null has one representation: no outcome holds it as a value.

namespace Outcome

theorem normal_scalar (s : Scalar) : (scalar s).Normal := normal_ofValue _

theorem normal_ofOption (v : Option Value) : (ofOption v).Normal := by
  cases v with
  | none => trivial
  | some v => exact normal_ofValue v

theorem normal_ofOptionBool (b : Option Bool) : (ofOptionBool b).Normal := by
  cases b <;> trivial

theorem normal_over (q : Quantifier) (collection : Outcome) (operation : Outcome → Outcome) :
    (q.over collection operation).Normal := by
  unfold Quantifier.over
  split <;> trivial

theorem normal_optionalString (text : Option String) :
    (BuiltinFunction.optionalString text).Normal := by
  cases text <;> trivial

-- An outcome that holds no null is null only as the explicit null.
theorem Normal.isMissing_iff {o : Outcome} (h : o.Normal) :
    o.isMissing = true ↔ o = .undefined ∨ o.toValue? = some .null := by
  cases o with
  | undefined => simp [isMissing]
  | null => simp [isMissing, toValue?]
  | value v =>
    have hne : v ≠ .null := by
      rintro rfl
      cases h
    simp [isMissing, toValue?, hne]

-- Operators give no null, whatever their operands are.

theorem normal_not (o : Outcome) : o.not.Normal := normal_ofOptionBool _

theorem normal_toOutcome (q : Quantity) : q.toOutcome.Normal := by
  cases q <;> rfl

theorem normal_negate (o : Outcome) : o.negate.Normal := by
  unfold negate
  split
  · exact normal_toOutcome _
  · trivial

theorem normal_arithmetic (op : BinaryOp) (a b : Outcome) : (arithmetic op a b).Normal := by
  unfold arithmetic
  split
  · split
    · exact normal_toOutcome _
    · trivial
  · trivial

theorem normal_add (a b : Outcome) : (add a b).Normal := by
  unfold add
  split
  · rfl
  · exact normal_arithmetic _ _ _

theorem normal_compare (test : Ordering → Bool) (a b : Outcome) : (compare test a b).Normal :=
  normal_ofOptionBool _

theorem normal_equal (ignoreCase : Bool) (a b : Outcome) : (equal ignoreCase a b).Normal := by
  unfold equal
  split <;> trivial

theorem normal_like (ignoreCase : Bool) (text pattern : Outcome) :
    (like ignoreCase text pattern).Normal := by
  unfold like
  split
  · split <;> rfl
  · trivial

theorem normal_isIn (ignoreCase : Bool) (item collection : Outcome) :
    (isIn ignoreCase item collection).Normal := by
  unfold isIn
  split <;> trivial

theorem normal_element (target key : Outcome) : (target.element key).Normal := by
  unfold element
  split
  · exact normal_project _ _
  · trivial

end Outcome

open Outcome

theorem UnaryOp.normal_apply (op : UnaryOp) (operand : Outcome) : (op.apply operand).Normal := by
  cases op with
  | not => exact normal_not _
  | negate => exact normal_negate _
  | isNull => rfl
  | isNotNull => rfl

theorem BinaryOp.normal_apply (op : BinaryOp) (ignoreCase : Bool) (left right : Outcome) :
    (op.apply ignoreCase left right).Normal := by
  cases op with
  | or => rfl
  | and => rfl
  | equal => exact normal_equal _ _ _
  | notEqual => exact normal_not _
  | less => exact normal_compare _ _ _
  | lessOrEqual => exact normal_compare _ _ _
  | greater => exact normal_compare _ _ _
  | greaterOrEqual => exact normal_compare _ _ _
  | like => exact normal_like _ _ _
  | notLike => exact normal_not _
  | isIn => exact normal_isIn _ _ _
  | notIn => exact normal_not _
  | add => exact normal_add _ _
  | subtract => exact normal_arithmetic _ _ _
  | multiply => exact normal_arithmetic _ _ _
  | divide => exact normal_arithmetic _ _ _
  | modulo => exact normal_arithmetic _ _ _
  | power => exact normal_arithmetic _ _ _

namespace BuiltinFunction

-- Only the arguments of this function come out of it as they are.
theorem normal_coalesced {arguments : List Outcome} (h : ∀ o ∈ arguments, o.Normal) :
    (coalesced arguments).Normal := by
  fun_induction coalesced arguments with
  | case1 => trivial
  | case2 v rest => exact h _ List.mem_cons_self
  | case3 rest v hrest ih =>
    rw [← hrest]
    exact ih fun o ho => h o (List.mem_cons_of_mem _ ho)
  | case4 => trivial
  | case5 rest ih => exact ih fun o ho => h o (List.mem_cons_of_mem _ ho)

theorem normal_onTexts {ignoreCase : Bool} {text needle : Outcome}
    {result : List Char → List Char → Outcome} (h : ∀ t n, (result t n).Normal) :
    (onTexts ignoreCase text needle result).Normal := by
  unfold onTexts
  split
  · split <;> exact h _ _
  · trivial

theorem normal_position (n : Option Nat) : (position n).Normal := by
  cases n <;> rfl

theorem normal_matching {text pattern : Outcome} {result : Option Nat → Outcome}
    (h : ∀ n, (result n).Normal) : (matching text pattern result).Normal := by
  refine normal_onTexts fun t p => ?_
  split
  · exact h _
  · trivial

theorem normal_lengthOf (o : Outcome) : (lengthOf o).Normal := by
  unfold lengthOf
  split <;> trivial

theorem normal_substringOf (text start : Outcome) (count : Option Outcome) :
    (substringOf text start count).Normal := by
  unfold substringOf
  dsimp only
  repeat' split
  all_goals trivial

theorem normal_textOf (v : Value) (format : Option String) : (textOf v format).Normal := by
  cases v <;> rfl

theorem normal_stringOf (o : Outcome) (format : Option Outcome) : (stringOf o format).Normal := by
  unfold stringOf
  split
  · exact normal_textOf _ _
  · split
    · exact normal_textOf _ _
    · trivial
  · trivial

theorem normal_tagOfRecord (o : Outcome) : (tagOfRecord o).Normal := by
  unfold tagOfRecord
  split
  · exact normal_optionalString _
  · trivial

theorem normal_roundTo (o digits : Outcome) : (roundTo o digits).Normal := by
  unfold roundTo
  repeat' split
  all_goals trivial

theorem normal_utcOf (o : Outcome) : (utcOf o).Normal := by
  unfold utcOf
  split
  · exact normal_scalar _
  · trivial

theorem normal_apply (f : BuiltinFunction) (clock : Timestamp) (ignoreCase : Bool)
    {arguments : List Outcome} (h : ∀ o ∈ arguments, o.Normal) :
    (f.apply clock ignoreCase arguments).Normal := by
  unfold apply
  split
  · exact normal_coalesced h
  · exact normal_optionalString _
  · exact normal_onTexts fun _ _ => rfl
  · exact normal_element _ _
  · exact normal_onTexts fun _ _ => rfl
  · exact normal_onTexts fun _ _ => normal_position _
  · exact normal_matching normal_position
  · rfl
  · exact normal_matching fun _ => rfl
  · exact normal_onTexts fun _ _ => normal_position _
  · exact normal_lengthOf _
  · exact normal_scalar _
  · exact normal_roundTo _ _
  · exact normal_onTexts fun _ _ => rfl
  · exact normal_substringOf _ _ _
  · exact normal_substringOf _ _ _
  · exact normal_tagOfRecord _
  · exact normal_stringOf _ _
  · exact normal_stringOf _ _
  · rfl
  · exact normal_utcOf _
  · trivial

end BuiltinFunction

-- A caller's functions give no null for arguments that hold none.
def Resolver.Normal (resolver : Resolver) : Prop :=
  ∀ name arity f, resolver name arity = some f →
    ∀ arguments : List Outcome, (∀ o ∈ arguments, o.Normal) → (f arguments).Normal

theorem Resolver.normal_empty : Resolver.empty.Normal := nofun

theorem Function.resolver_of_custom {resolver : Resolver} {name shown : String} {arity : Nat}
    {ignoreCase : Bool} {f : CallerFunction}
    (h : resolve? resolver name arity ignoreCase = .ok (.custom shown f)) :
    resolver name arity = some f := by
  unfold resolve? at h
  dsimp only at h
  split at h
  · cases h
  · split at h <;> cases h
  · rename_i hsome
    split at h
    · cases h
    · cases h
      exact hsome
  · cases h

theorem Function.normal_of_resolve? {resolver : Resolver} (hresolver : resolver.Normal)
    {name : String} {arity : Nat} {ignoreCase : Bool} {f : Function}
    (h : resolve? resolver name arity ignoreCase = .ok f) (clock : Timestamp)
    {arguments : List Outcome} (harguments : ∀ o ∈ arguments, o.Normal) :
    (f.apply clock ignoreCase arguments).Normal := by
  cases f with
  | builtin f => exact f.normal_apply clock ignoreCase harguments
  | custom shown f => exact hresolver name arity f (resolver_of_custom h) arguments harguments

theorem BuiltinProperty.normal_ofEvent (p : BuiltinProperty) (event : Event) :
    (p.ofEvent event).Normal := by
  cases p with
  | timestamp => exact normal_scalar _
  | message => rfl
  | messageTemplate => rfl
  | level => rfl
  | exception =>
    unfold ofEvent
    dsimp only
    split <;> trivial
  | properties => rfl
  | eventId => exact normal_scalar _
  | renderings =>
    change event.renderings.Normal
    unfold Event.renderings
    dsimp only
    split <;> trivial

namespace Scope

-- What is bound around an expression holds no null.
def Normal (scope : Scope) : Prop := ∀ n, (scope.slot n).Normal

theorem normal_ofEvent (event : Event) (clock : Timestamp) : (ofEvent event clock).Normal :=
  fun _ => trivial

theorem Normal.bind {scope : Scope} (h : scope.Normal) (n : Nat) {o : Outcome} (ho : o.Normal) :
    (scope.bind n o).Normal := by
  intro m
  rw [slot_bind]
  split
  · exact ho
  · exact h m

end Scope

-- The element of a round and its index, name or key hold no null.
theorem Value.normal_rounds {v : Value} {round : Outcome × Outcome} (h : round ∈ v.rounds) :
    round.1.Normal ∧ round.2.Normal := by
  cases v with
  | scalar s => cases h
  | sequence items =>
    obtain ⟨index, hindex, rfl⟩ := List.mem_mapIdx.mp h
    exact ⟨normal_ofValue _, rfl⟩
  | record members tag =>
    obtain ⟨member, -, rfl⟩ := List.mem_map.mp h
    exact ⟨rfl, normal_ofValue _⟩
  | dictionary entries =>
    obtain ⟨entry, -, rfl⟩ := List.mem_map.mp h
    exact ⟨normal_scalar _, normal_ofValue _⟩

theorem Scope.Normal.bindRound {scope : Scope} (h : scope.Normal) {v : Value}
    {round : Outcome × Outcome} (hround : round ∈ v.rounds) (first : Nat) (second : Option Nat) :
    (Node.bindRound scope first second round).Normal := by
  obtain ⟨hfirst, hsecond⟩ := v.normal_rounds hround
  cases second with
  | none => exact h.bind first hfirst
  | some n => exact (h.bind first hfirst).bind n hsecond

namespace Surroundings

variable {within : Surroundings}

-- Every step of the evaluation keeps the invariant. Wildcards bind elements, in which a null has
-- become the explicit one.
theorem Lowers.normal_eval {es : List Expr} {next : Nat} {plans : List Plan} {after : Nat}
    (h : within.Lowers es next plans after) (hresolver : within.resolver.Normal) {scope : Scope}
    (hscope : scope.Normal) : ∀ plan ∈ plans, (plan.eval scope).Normal := by
  induction h generalizing scope with
  | nil => nofun
  | @cons e rest plan plans _ _ _ first others ihfirst ihothers =>
    have hplan : (plan.eval scope).Normal := ihfirst hscope plan List.mem_cons_self
    exact List.forall_mem_cons.mpr ⟨hplan, ihothers hscope⟩
  | constant => simpa [Plan.eval] using normal_scalar _
  | property | ownMember | ownIndex => simpa [Plan.eval] using normal_ofOption _
  | @builtin p => simpa [Plan.eval] using p.normal_ofEvent scope.event
  | @slot n => simpa [Plan.eval] using hscope n
  | ranging found range inner ihrange ihinner =>
    simpa [Plan.eval_quantified] using normal_over _ _ _
  | member other plain inner ih => simpa [Plan.eval] using normal_project _ _
  | index other plain inner ih => simpa [Plan.eval] using normal_element _ _
  | remaining special => simp [Plan.eval, Outcome.Normal, Event.remainingProperties, Value.isNull]
  | call plain ordinary found inner ih =>
    have harguments := List.forall_mem_map.mpr (ih hscope)
    simpa [Plan.eval, Plan.evalAll_eq_map] using
      Function.normal_of_resolve? hresolver found scope.clock harguments
  | unary plain inner ih => simpa [Plan.eval] using UnaryOp.normal_apply _ _
  | binary plain inner ih => simpa [Plan.eval] using BinaryOp.normal_apply _ _ _ _
  | @conditional _ _ _ consequentPlan _ _ _ alternativePlan inner ih =>
    have hconsequent := ih hscope consequentPlan (by simp)
    refine List.forall_mem_singleton.mpr ?_
    cases alternativePlan with
    | none =>
      rw [Plan.eval]
      split
      · exact hconsequent
      · trivial
    | some alternativePlan =>
      rw [Plan.eval]
      split
      · exact hconsequent
      · exact ih hscope alternativePlan (by simp)
  | array shapes inner ih => simp [Plan.eval, Outcome.Normal, Value.isNull]
  | object shapes inner ih => simp [Plan.eval, Outcome.Normal, Value.isNull]

theorem Gives.normal {next : Nat} {scope : Scope} {e : Expr} {o : Outcome}
    (h : within.Gives next scope e o) (hresolver : within.resolver.Normal)
    (hscope : scope.Normal) : o.Normal := by
  obtain ⟨plan, after, hlower, rfl⟩ := h
  exact (lowers_of_lower hlower).normal_eval hresolver hscope plan (List.mem_singleton_self plan)

-- A question about an expression is asked of its value, or of the elements that it ranges over.

theorem lower_unary_of_pull_none {e : Expr} {next after : Nat} {plan : Plan}
    (plain : Expr.pull next e = none) (h : within.lower e next = .ok (plan, after))
    (op : UnaryOp) : within.lower (.unary op e) next = .ok (.unary op plan, after) := by
  rw [lower_unary plain, h]
  rfl

theorem exists_lower_unary_of_pull {e : Expr} {next after : Nat} {plan : Plan}
    {p : Expr.Pulled Expr} (found : Expr.pull next e = some p)
    (h : within.lower e next = .ok (plan, after)) (op : UnaryOp) :
    ∃ collection middle body last,
      within.lower p.collection (next + 1) = .ok (collection, middle) ∧
      within.lower (.unary op p.body) middle = .ok (body, last) ∧
      within.lower (.unary op e) next
        = .ok (.quantified p.quantifier collection next body, last) := by
  have hranging : (Expr.unary op e).ranging next = some (p.map (Expr.unary op)) := by
    rw [Expr.ranging, found]
    rfl
  have hcalls : (Expr.unary op e).calls = e.calls :=
    (Expr.calls_of_children rfl).trans (by simp [Expr.children])
  obtain ⟨test, last, htest⟩ := exists_lower (hcalls ▸ resolves_of_lower h) next
  have hparts := htest
  rw [lower_of_ranging hranging] at hparts
  simp only [bind_eq_ok, pure_eq_ok] at hparts
  obtain ⟨⟨collection, middle⟩, hcollection, ⟨body, final⟩, hbody, hparts⟩ := hparts
  cases hparts
  exact ⟨collection, middle, body, _, hcollection, hbody, htest⟩

-- Nulls are found by `is null`, also when they come from a caller's function or a loop. A wildcard
-- on the expression's own path is drawn out of the question, which is then asked of the elements.
theorem eval_normal (hresolver : within.resolver.Normal) {e : Expr} {next after : Nat}
    {plan : Plan} (hlower : within.lower e next = .ok (plan, after)) {scope : Scope}
    (hscope : scope.Normal) :
    (plan.eval scope).Normal ∧
    (∀ v, plan.eval scope = .value v → ∀ round ∈ v.rounds, ∀ first second,
      (Node.bindRound scope first second round).Normal) ∧
    (Expr.pull next e = none → ∃ b, within.Gives next scope (.unary .isNull e) (.bool b) ∧
      (b = true ↔ plan.eval scope = .undefined ∨ (plan.eval scope).toValue? = some .null)) ∧
    (∀ p, Expr.pull next e = some p → ∃ collection middle body last,
      within.lower p.collection (next + 1) = .ok (collection, middle) ∧
      within.lower (.unary .isNull p.body) middle = .ok (body, last) ∧
      within.Gives next scope (.unary .isNull e)
        (p.quantifier.over (collection.eval scope) fun o => body.eval (scope.bind next o))) := by
  have hgives : within.Gives next scope e (plan.eval scope) := ⟨plan, after, hlower, rfl⟩
  have hnormal := hgives.normal hresolver hscope
  refine ⟨hnormal, fun v hv round hround first second => hscope.bindRound hround first second,
    fun plain => ?_, fun p found => ?_⟩
  · have htest := lower_unary_of_pull_none plain hlower .isNull
    have hvalue : (Plan.unary .isNull plan).eval scope = .bool (plan.eval scope).isMissing := by
      rw [Plan.eval]
      rfl
    exact ⟨(plan.eval scope).isMissing, ⟨_, _, htest, hvalue⟩, hnormal.isMissing_iff⟩
  · obtain ⟨collection, middle, body, last, hcollection, hbody, htest⟩ :=
      exists_lower_unary_of_pull found hlower .isNull
    exact ⟨collection, middle, body, last, hcollection, hbody, _, _, htest,
      Plan.eval_quantified _ _ _ _ _⟩

-- `first(Local, Xs) is null` with a null for `Local`

private def firstResolver : Resolver := fun name arity =>
  if name = "first" ∧ arity = 2 then some fun arguments => arguments.headD .undefined else none

private def firstCall : Expr := .call "first" [.slot 0, .property "Xs"] false 0

private def nullEvent : Event :=
  { timestamp := midday, level := .information, messageTemplate := "", exception := none
    properties := .ofList [("Xs", .sequence [.null])] }

theorem eval_normal_call : firstResolver.Normal ∧
    ((Scope.ofEvent nullEvent midday).bind 0 .null).Normal ∧
    ∃ plan after,
      (Surroundings.mk firstResolver []).lower firstCall 1 = .ok (plan, after) ∧
      (plan.eval ((Scope.ofEvent nullEvent midday).bind 0 .null)).Normal ∧
      (Surroundings.mk firstResolver []).Gives 1 ((Scope.ofEvent nullEvent midday).bind 0 .null)
        (.unary .isNull firstCall) (.bool true) := by
  have hresolver : firstResolver.Normal := by
    intro name arity f hf arguments harguments
    unfold firstResolver at hf
    split at hf
    · cases hf
      cases arguments with
      | nil => trivial
      | cons o rest => exact harguments o List.mem_cons_self
    · cases hf
  have hscope : ((Scope.ofEvent nullEvent midday).bind 0 .null).Normal :=
    (Scope.normal_ofEvent _ _).bind 0 trivial
  have hlower : (Surroundings.mk firstResolver []).lower firstCall 1
      = .ok (.call (.custom "first" fun arguments => arguments.headD .undefined)
          [.slot 0, .property "Xs"] false, 1) := by
    have hfirst : Function.resolve firstResolver "first" 2 false 0
        = .ok (.custom "first" fun arguments => arguments.headD .undefined) := rfl
    simp [firstCall, lower, lowerAll, Expr.pull, Expr.pullFirst, isRest, hfirst, bind, Except.bind,
      pure, Except.pure]
  obtain ⟨hnormal, -, hplain, -⟩ := eval_normal hresolver hlower hscope
  obtain ⟨b, hgives, hb⟩ := hplain rfl
  obtain rfl : b = true := hb.mpr (.inr rfl)
  exact ⟨hresolver, hscope, _, _, hlower, hnormal, hgives⟩

-- `Xs[?] is null` asks for a null among the elements, `Xs[?]` for one that is true.
theorem isNull_of_element : Resolver.empty.Normal ∧ (Scope.ofEvent nullEvent midday).Normal ∧
    (Surroundings.mk Resolver.empty []).Gives 0 (Scope.ofEvent nullEvent midday)
      (.wildcard (.property "Xs") .any) (.bool false) ∧
    (Surroundings.mk Resolver.empty []).Gives 0 (Scope.ofEvent nullEvent midday)
      (.unary .isNull (.wildcard (.property "Xs") .any)) (.bool true) := by
  refine ⟨Resolver.normal_empty, Scope.normal_ofEvent _ _,
    ⟨.quantified .any (.property "Xs") 0 (.slot 0), 1, ?_, rfl⟩,
    ⟨.quantified .any (.property "Xs") 0 (.unary .isNull (.slot 0)), 1, ?_, rfl⟩⟩
  · simp [lower_of_ranging, Expr.ranging, Expr.pull]
  · simp [lower, lower_of_ranging, Expr.ranging, Expr.pull, Expr.Pulled.map]

end Surroundings

end EventText
