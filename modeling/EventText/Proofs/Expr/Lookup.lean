import EventText.Proofs.Expr.Evaluation

namespace EventText

def Scope.Binds (scope : Scope) (n : Nat) : Prop := ∃ o, (n, o) ∈ scope.slots

theorem Scope.binds_bind {scope : Scope} {n m : Nat} {o : Outcome} :
    (scope.bind n o).Binds m ↔ m = n ∨ scope.Binds m := by
  simp only [Scope.Binds, Scope.bind, List.mem_cons, Prod.mk.injEq]
  constructor
  · rintro ⟨o', ⟨rfl, -⟩ | h⟩
    · exact .inl rfl
    · exact .inr ⟨o', h⟩
  · rintro (rfl | ⟨o', h⟩)
    · exact ⟨o, .inl ⟨rfl, rfl⟩⟩
    · exact ⟨o', .inr h⟩

-- Whether the left operand is enough for the result.
def BinaryOp.settledBy (op : BinaryOp) (left : Outcome) : Bool :=
  match op with
  | .and => !left.isTrue
  | .or => left.isTrue
  | _ => false

-- Whether one element is enough for the result.
def Quantifier.settledBy (q : Quantifier) (b : Bool) : Bool :=
  match q with
  | any => b
  | all => !b

-- The elements up to the first one that settles the result.
def Quantifier.visited (q : Quantifier) (values : List Value) (p : Value → Bool) : List Value :=
  match values with
  | [] => []
  | value :: rest => value :: if q.settledBy (p value) then [] else q.visited rest p

namespace Plan

-- The parts of a plan that are evaluated in the same scope as the plan itself.
def operands (scope : Scope) : Plan → List Plan
  | .constant _ | .property _ | .builtin _ | .slot _ | .remaining _ => []
  | .member target _ => [target]
  | .index target key => [target, key]
  | .call _ arguments _ => arguments
  | .unary _ operand => [operand]
  | .binary op left right _ =>
      left :: if op.settledBy (left.eval scope) then [] else [right]
  | .conditional condition consequent alternative =>
      condition :: if (condition.eval scope).isTrue then [consequent] else alternative.toList
  | .array elements => elements.map Element.content
  | .object members => members.map Member.content
  | .quantified _ collection _ _ => [collection]

-- Evaluating a plan in a scope looks up the slot `n`, in the scope that has been reached then.
inductive Looks (n : Nat) (reached : Scope) : Plan → Scope → Prop
  | slot : Looks n reached (.slot n) reached
  | operand {plan part scope} (hpart : part ∈ plan.operands scope)
      (inner : Looks n reached part scope) : Looks n reached plan scope
  | body {q collection m body scope values value}
      (hvalues : (collection.eval scope).value?.bind Value.elements? = some values)
      (hvalue : value ∈ q.visited values fun value =>
        (body.eval (scope.bind m (.ofValue value))).isTrue)
      (inner : Looks n reached body (scope.bind m (.ofValue value))) :
      Looks n reached (.quantified q collection m body) scope

theorem operands_binary {op : BinaryOp} {left right part : Plan} {ignoreCase : Bool}
    {scope : Scope} (h : part ∈ (binary op left right ignoreCase).operands scope) :
    part ∈ [left, right] := by
  simp only [operands] at h
  split at h
  · exact List.mem_cons.mpr (.inl (List.mem_singleton.mp h))
  · exact h

theorem operands_conditional {condition consequent part : Plan} {alternative : Option Plan}
    {scope : Scope} (h : part ∈ (conditional condition consequent alternative).operands scope) :
    part ∈ condition :: consequent :: alternative.toList := by
  simp only [operands] at h
  split at h
  · exact List.mem_cons.mpr ((List.mem_cons.mp h).imp_right fun h =>
      List.mem_cons.mpr (.inl (List.mem_singleton.mp h)))
  · exact List.mem_cons.mpr ((List.mem_cons.mp h).imp_right (List.mem_cons_of_mem _))

theorem Looks.exists_operand {n : Nat} {reached scope : Scope} {plan : Plan}
    (h : Looks n reached plan scope) (hslot : plan ≠ .slot n)
    (hquantified : ∀ q collection m body, plan ≠ .quantified q collection m body) :
    ∃ part ∈ plan.operands scope, Looks n reached part scope := by
  cases h with
  | slot => exact absurd rfl hslot
  | operand hpart inner => exact ⟨_, hpart, inner⟩
  | body => exact absurd rfl (hquantified _ _ _ _)

end Plan

namespace Surroundings

variable {within : Surroundings}

private theorem looks_of_children {e : Expr} {n : Nat} {P Q : Prop}
    (h : (∃ c ∈ e.children, (Expr.slot n).Occurs c) ∧ P ∨ Q) :
    (∃ other ∈ [e], (Expr.slot n).Occurs other) ∧ P ∨ Q := by
  refine h.imp_left ?_
  rintro ⟨⟨c, hc, hn⟩, hP⟩
  exact ⟨⟨e, List.mem_cons_self, .inside hc hn⟩, hP⟩

-- A lowered expression looks up its own slots, and finds those that are bound around it. The slots
-- that were handed out for wildcards are bound whenever they are looked up.
theorem Lowers.looks {es : List Expr} {next : Nat} {plans : List Plan} {after : Nat}
    (h : within.Lowers es next plans after) (hbelow : ∀ e ∈ es, e.SlotsBelow next) {plan : Plan}
    (hplan : plan ∈ plans) {n : Nat} {reached scope : Scope}
    (hlooks : plan.Looks n reached scope) :
    (∃ e ∈ es, (Expr.slot n).Occurs e) ∧ (reached.Binds n ↔ scope.Binds n) ∨
      next ≤ n ∧ reached.Binds n := by
  induction h generalizing plan scope with
  | nil => cases hplan
  | @cons e rest _ _ next _ _ first others ihfirst ihothers =>
      rcases List.mem_cons.mp hplan with rfl | hplan
      · have hfirst : ∀ f ∈ [e], f.SlotsBelow next :=
          List.forall_mem_singleton.mpr (hbelow e List.mem_cons_self)
        refine (ihfirst hfirst List.mem_cons_self hlooks).imp_left (And.imp_left ?_)
        rintro ⟨e, he, hn⟩
        exact ⟨e, List.mem_cons.mpr (.inl (List.mem_singleton.mp he)), hn⟩
      · have hothers := ihothers
          (fun e he => (hbelow e (List.mem_cons_of_mem _ he)).mono first.next_le) hplan hlooks
        have hle := first.next_le
        refine hothers.imp (And.imp_left ?_) (And.imp_left (Nat.le_trans hle))
        rintro ⟨e, he, hn⟩
        exact ⟨e, List.mem_cons_of_mem _ he, hn⟩
  | constant | property | builtin | ownMember | ownIndex | remaining =>
      obtain rfl := List.mem_singleton.mp hplan
      obtain ⟨_, hpart, -⟩ := hlooks.exists_operand nofun nofun
      cases hpart
  | @slot m next =>
      obtain rfl := List.mem_singleton.mp hplan
      cases hlooks with
      | slot => exact .inl ⟨⟨_, List.mem_cons_self, .here⟩, Iff.rfl⟩
      | operand hpart _ => cases hpart
  | @ranging e p collection body next middle after found range inner ihrange ihinner =>
      obtain rfl := List.mem_singleton.mp hplan
      have he : e.SlotsBelow next := hbelow e List.mem_cons_self
      have hcollection : p.collection.SlotsBelow (next + 1) := he.collection found
      have hbody : p.body.SlotsBelow middle := he.body found range.next_le
      have hle := range.next_le
      cases hlooks with
      | operand hpart hlooks =>
          rcases ihrange (by simpa using hcollection) hpart hlooks with ⟨hn, hbinds⟩ | ⟨hn, hbinds⟩
          · obtain ⟨_, hmem, hn⟩ := hn
            obtain rfl := List.mem_singleton.mp hmem
            exact .inl ⟨⟨e, List.mem_cons_self, hn.trans (Expr.ranging_collection_occurs found)⟩,
              hbinds⟩
          · exact .inr ⟨by omega, hbinds⟩
      | body _ _ hlooks =>
          rcases ihinner (by simpa using hbody) List.mem_cons_self hlooks with
            ⟨hn, hbinds⟩ | ⟨hn, hbinds⟩
          · obtain ⟨_, hmem, hn⟩ := hn
            obtain rfl := List.mem_singleton.mp hmem
            rw [Scope.binds_bind] at hbinds
            rcases Expr.slot_of_ranging_body found hn with rfl | hn
            · exact .inr ⟨Nat.le_refl _, hbinds.mpr (.inl rfl)⟩
            · have hne : n ≠ next := Nat.ne_of_lt (he n hn)
              exact .inl ⟨⟨e, List.mem_cons_self, hn⟩, hbinds.trans (or_iff_right hne)⟩
          · exact .inr ⟨by omega, hbinds⟩
  | member _ _ _ ih | index _ _ _ ih | call _ _ _ _ ih | unary _ _ ih | array _ _ ih
  | object _ _ ih =>
      obtain rfl := List.mem_singleton.mp hplan
      obtain ⟨part, hpart, hlooks⟩ := hlooks.exists_operand nofun nofun
      exact looks_of_children (ih (Expr.slotsBelow_children hbelow) hpart hlooks)
  | binary _ _ ih =>
      obtain rfl := List.mem_singleton.mp hplan
      obtain ⟨part, hpart, hlooks⟩ := hlooks.exists_operand nofun nofun
      have hinner := ih (Expr.slotsBelow_children hbelow) (Plan.operands_binary hpart) hlooks
      exact looks_of_children hinner
  | conditional _ ih =>
      obtain rfl := List.mem_singleton.mp hplan
      obtain ⟨part, hpart, hlooks⟩ := hlooks.exists_operand nofun nofun
      have hinner := ih (Expr.slotsBelow_children hbelow) (Plan.operands_conditional hpart) hlooks
      exact looks_of_children hinner

end Surroundings

end EventText
