import EventText.Proofs.Expr.Resolving

namespace EventText

-- All slots from one on up to another, each once and in ascending order.
def Consecutive (next after : Nat) (slots : List Nat) : Prop :=
  next ≤ after ∧ slots = List.range' next (after - next)

namespace Consecutive

variable {next middle after : Nat} {slots others : List Nat}

theorem nil (next : Nat) : Consecutive next next [] := by
  simp [Consecutive]

theorem singleton (next : Nat) : Consecutive next (next + 1) [next] := by
  simp [Consecutive]

theorem append (h : Consecutive next middle slots) (hothers : Consecutive middle after others) :
    Consecutive next after (slots ++ others) := by
  obtain ⟨hle, rfl⟩ := h
  obtain ⟨hle', rfl⟩ := hothers
  have hjoin := @List.range'_append_1 next (middle - next) (after - middle)
  rw [show next + (middle - next) = middle by omega,
    show middle - next + (after - middle) = after - next by omega] at hjoin
  exact ⟨by omega, hjoin⟩

theorem nodup (h : Consecutive next after slots) : slots.Nodup := h.2 ▸ List.nodup_range'

theorem mem_iff (h : Consecutive next after slots) {n : Nat} : n ∈ slots ↔ next ≤ n ∧ n < after := by
  obtain ⟨hle, rfl⟩ := h
  rw [List.mem_range'_1]
  omega

theorem after_eq (h : Consecutive next after slots) : after = next + slots.length := by
  obtain ⟨hle, rfl⟩ := h
  rw [List.length_range']
  omega

end Consecutive

namespace Expr

def ownWildcards : Expr → List Quantifier
  | .wildcard _ q => [q]
  | _ => []

-- The wildcards of an expression at any depth, each with how it ranges.
def wildcards (e : Expr) : List Quantifier :=
  e.ownWildcards ++ e.children.attach.flatMap fun c => wildcards c.1
termination_by e.size
decreasing_by exact size_child c.2

theorem wildcards_eq (e : Expr) :
    e.wildcards = e.ownWildcards ++ e.children.flatMap wildcards := by
  rw [wildcards]
  simp

theorem wildcards_of_children {e : Expr} (h : e.ownWildcards = []) :
    e.wildcards = e.children.flatMap wildcards := by
  rw [wildcards_eq, h, List.nil_append]

theorem gathers_wildcards : Gathers wildcards fun q => [q] where
  slot := fun _ => wildcards_of_children rfl
  wildcard := fun _ _ => by
    rw [wildcards_eq]
    simp [ownWildcards, children]
  member := fun _ _ _ => by
    rw [wildcards_of_children rfl]
    simp [children]
  index := fun _ _ _ => by
    rw [wildcards_of_children rfl]
    simp [children]
  call := fun _ _ _ _ => ⟨[], fun _ _ _ => wildcards_of_children rfl⟩
  unary := fun _ _ => by
    rw [wildcards_of_children rfl]
    simp [children]
  binary := fun _ _ _ _ _ => by
    rw [wildcards_of_children rfl]
    simp [children]

end Expr

namespace Plan

def ownQuantifiers : Plan → List (Quantifier × Nat)
  | .quantified q _ n _ => [(q, n)]
  | _ => []

-- The quantifiers of a plan, each with the slot that it binds and before those inside of it.
def quantifiers (plan : Plan) : List (Quantifier × Nat) :=
  plan.ownQuantifiers ++ plan.parts.attach.flatMap fun part => quantifiers part.1
termination_by sizeOf plan
decreasing_by exact sizeOf_part part.2

theorem quantifiers_eq (plan : Plan) :
    plan.quantifiers = plan.ownQuantifiers ++ plan.parts.flatMap quantifiers := by
  rw [quantifiers]
  simp

theorem quantifiers_of_parts {plan : Plan} (h : plan.ownQuantifiers = []) :
    plan.quantifiers = plan.parts.flatMap quantifiers := by
  rw [quantifiers_eq, h, List.nil_append]

theorem quantifiers_quantified (q : Quantifier) (collection : Plan) (n : Nat) (body : Plan) :
    (Plan.quantified q collection n body).quantifiers
      = (q, n) :: (collection.quantifiers ++ body.quantifiers) := by
  rw [quantifiers_eq]
  simp [ownQuantifiers, parts]

def boundSlots (plan : Plan) : List Nat := plan.quantifiers.map (·.2)

-- A slot that stands in a plan outside the bodies of all quantifiers that bind it.
inductive Free (n : Nat) : Plan → Prop
  | slot : Free n (.slot n)
  | part {part plan} (plain : plan.ownQuantifiers = []) (hpart : part ∈ plan.parts)
      (inner : Free n part) : Free n plan
  | collection {q collection m body} (inner : Free n collection) :
      Free n (.quantified q collection m body)
  | body {q collection m body} (other : m ≠ n) (inner : Free n body) :
      Free n (.quantified q collection m body)

end Plan

namespace Surroundings

variable {within : Surroundings}

-- Lowering makes a quantifier of every wildcard, and of nothing else.

private theorem kinds_inner {plan : Plan} {e : Expr} (hplan : plan.ownQuantifiers = [])
    (he : e.ownWildcards = [])
    (inner : ((plan.parts.flatMap Plan.quantifiers).map (·.1)).Perm
      (e.children.flatMap Expr.wildcards)) :
    (([plan].flatMap Plan.quantifiers).map (·.1)).Perm ([e].flatMap Expr.wildcards) := by
  rw [List.flatMap_singleton, List.flatMap_singleton, Plan.quantifiers_of_parts hplan,
    Expr.wildcards_of_children he]
  exact inner

theorem Lowers.kinds_perm {es : List Expr} {next : Nat} {plans : List Plan} {after : Nat}
    (h : within.Lowers es next plans after) :
    ((plans.flatMap Plan.quantifiers).map (·.1)).Perm (es.flatMap Expr.wildcards) := by
  induction h with
  | nil => exact .nil
  | cons _ _ ihfirst ihothers =>
      rw [List.flatMap_singleton, List.flatMap_singleton] at ihfirst
      rw [List.flatMap_cons, List.flatMap_cons, List.map_append]
      exact ihfirst.append ihothers
  | constant | property | builtin | slot => exact kinds_inner rfl rfl .nil
  | ownMember | ownIndex =>
      refine kinds_inner rfl rfl ?_
      simp [Expr.children, Plan.parts, Expr.wildcards_eq, Expr.ownWildcards]
  | ranging found _ _ ihrange ihinner =>
      have hperm := Expr.gathers_wildcards.ranging found
      simp only [List.flatMap_singleton] at ihrange ihinner ⊢
      rw [Plan.quantifiers_quantified, List.map_cons, List.map_append]
      exact ((ihrange.append ihinner).cons _).trans hperm
  | remaining special =>
      obtain rfl := arguments_of_isRest special
      exact kinds_inner rfl rfl .nil
  | member _ _ _ ih | index _ _ _ ih | call _ _ _ _ ih | unary _ _ ih | binary _ _ ih
  | conditional _ ih | array _ _ ih | object _ _ ih => exact kinds_inner rfl rfl ih

-- The slots of the quantifiers are those that lowering hands out, in the same order.

private theorem allots_inner {plan : Plan} {next after : Nat} (hplan : plan.ownQuantifiers = [])
    (inner : Consecutive next after ((plan.parts.flatMap Plan.quantifiers).map (·.2))) :
    Consecutive next after (([plan].flatMap Plan.quantifiers).map (·.2)) := by
  rw [List.flatMap_singleton, Plan.quantifiers_of_parts hplan]
  exact inner

theorem Lowers.consecutive {es : List Expr} {next : Nat} {plans : List Plan} {after : Nat}
    (h : within.Lowers es next plans after) :
    Consecutive next after ((plans.flatMap Plan.quantifiers).map (·.2)) := by
  induction h with
  | nil => exact .nil _
  | cons _ _ ihfirst ihothers =>
      rw [List.flatMap_singleton] at ihfirst
      rw [List.flatMap_cons, List.map_append]
      exact ihfirst.append ihothers
  | constant | property | builtin | slot | ownMember | ownIndex | remaining =>
      exact allots_inner rfl (.nil _)
  | ranging _ _ _ ihrange ihinner =>
      simp only [List.flatMap_singleton] at ihrange ihinner ⊢
      rw [Plan.quantifiers_quantified, List.map_cons, List.map_append]
      exact (Consecutive.singleton _).append (ihrange.append ihinner)
  | member _ _ _ ih | index _ _ _ ih | call _ _ _ _ ih | unary _ _ ih | binary _ _ ih
  | conditional _ ih | array _ _ ih | object _ _ ih => exact allots_inner rfl ih

-- A slot that is free in a plan stands in the expression already: those that lowering puts into it
-- are bound around the place where they stand.

private theorem occurs_inner {plan : Plan} {e : Expr} {n : Nat} (hplan : plan.ownQuantifiers = [])
    (hslot : ∀ m, plan ≠ .slot m) (hfree : plan.Free n)
    (inner : ∀ part ∈ plan.parts, part.Free n → ∃ c ∈ e.children, (Expr.slot n).Occurs c) :
    (Expr.slot n).Occurs e := by
  cases hfree with
  | slot => exact absurd rfl (hslot n)
  | part _ hpart hfree =>
      obtain ⟨c, hc, hn⟩ := inner _ hpart hfree
      exact .inside hc hn
  | collection | body => cases hplan

theorem Lowers.occurs_of_free {es : List Expr} {next : Nat} {plans : List Plan} {after : Nat}
    (h : within.Lowers es next plans after) {n : Nat} {plan : Plan} (hplan : plan ∈ plans)
    (hfree : plan.Free n) : ∃ e ∈ es, (Expr.slot n).Occurs e := by
  induction h generalizing plan with
  | nil => cases hplan
  | cons _ _ ihfirst ihothers =>
      rcases List.mem_cons.mp hplan with rfl | hrest
      · obtain ⟨e, he, hn⟩ := ihfirst (List.mem_singleton.mpr rfl) hfree
        exact ⟨e, List.mem_cons.mpr (.inl (List.mem_singleton.mp he)), hn⟩
      · obtain ⟨e, he, hn⟩ := ihothers hrest hfree
        exact ⟨e, List.mem_cons_of_mem _ he, hn⟩
  | constant | property | builtin | ownMember | ownIndex | remaining =>
      obtain rfl := List.mem_singleton.mp hplan
      exact ⟨_, List.mem_cons_self, occurs_inner rfl (by simp) hfree (by simp [Plan.parts])⟩
  | slot =>
      obtain rfl := List.mem_singleton.mp hplan
      cases hfree with
      | slot => exact ⟨_, List.mem_cons_self, .here⟩
      | part _ hpart => cases hpart
  | ranging found _ _ ihrange ihinner =>
      obtain rfl := List.mem_singleton.mp hplan
      refine ⟨_, List.mem_cons_self, ?_⟩
      cases hfree with
      | part plain => cases plain
      | collection inner =>
          obtain ⟨c, hc, hn⟩ := ihrange List.mem_cons_self inner
          obtain rfl := List.mem_singleton.mp hc
          exact hn.trans (Expr.ranging_collection_occurs found)
      | body other inner =>
          obtain ⟨c, hc, hn⟩ := ihinner List.mem_cons_self inner
          obtain rfl := List.mem_singleton.mp hc
          exact (Expr.slot_of_ranging_body found hn).resolve_left (Ne.symm other)
  | member _ _ _ ih | index _ _ _ ih | call _ _ _ _ ih | unary _ _ ih | binary _ _ ih
  | conditional _ ih | array _ _ ih | object _ _ ih =>
      obtain rfl := List.mem_singleton.mp hplan
      exact ⟨_, List.mem_cons_self,
        occurs_inner rfl (by simp) hfree fun part hpart hinner => ih hpart hinner⟩

end Surroundings

end EventText
