import EventText.Proofs.Expr.Gathering

namespace EventText

-- A call as it is written: the name, the number of arguments, and where it stands.
structure Call where
  name : String
  arity : Nat
  ignoreCase : Bool
  position : Nat

namespace Call

-- `rest()` is no function.
def isRest (call : Call) : Bool :=
  call.arity == 0 && !call.ignoreCase && Text.sameIgnoringAsciiCase call.name "rest"

def mapPosition (f : Nat → Nat) (call : Call) : Call := { call with position := f call.position }

end Call

namespace Expr

def ownCalls : Expr → List Call
  | .call name arguments ignoreCase position => [⟨name, arguments.length, ignoreCase, position⟩]
  | _ => []

-- The calls of an expression, each before those in its arguments.
def calls (e : Expr) : List Call :=
  e.ownCalls ++ e.children.attach.flatMap fun c => calls c.1
termination_by e.size
decreasing_by exact size_child c.2

theorem calls_eq (e : Expr) : e.calls = e.ownCalls ++ e.children.flatMap calls := by
  rw [calls]
  simp

theorem calls_of_children {e : Expr} (h : e.ownCalls = []) :
    e.calls = e.children.flatMap calls := by
  rw [calls_eq, h, List.nil_append]

theorem calls_child {c e : Expr} (h : c ∈ e.children) : c.calls ⊆ e.calls := by
  rw [calls_eq e]
  intro call hcall
  exact List.mem_append_right _ (List.mem_flatMap.mpr ⟨c, h, hcall⟩)

-- A call that occurs at any depth is one of the calls.
theorem mem_calls {call : Call} {e : Expr} :
    call ∈ e.calls ↔ ∃ arguments : List Expr, arguments.length = call.arity ∧
      (Expr.call call.name arguments call.ignoreCase call.position).Occurs e := by
  induction e using childInduction with
  | step e ih =>
      rw [calls_eq, List.mem_append, List.mem_flatMap]
      constructor
      · rintro (hown | ⟨c, hc, hdeep⟩)
        · cases e with
          | call name arguments ignoreCase position =>
              obtain rfl := List.mem_singleton.mp hown
              exact ⟨arguments, rfl, .here⟩
          | _ => cases hown
        · obtain ⟨arguments, harity, hoccurs⟩ := (ih c hc).mp hdeep
          exact ⟨arguments, harity, .inside hc hoccurs⟩
      · rintro ⟨arguments, harity, hoccurs⟩
        rcases occurs_iff.mp hoccurs with rfl | ⟨c, hc, hdeep⟩
        · exact .inl (by simp [ownCalls, harity])
        · exact .inr ⟨c, hc, (ih c hc).mpr ⟨arguments, harity, hdeep⟩⟩

theorem calls_of_leaf {e : Expr} (h : e.ownCalls = []) (hleaf : e.children = []) :
    e.calls = [] := by
  rw [calls_of_children h, hleaf, List.flatMap_nil]

theorem gathers_calls : Gathers calls fun _ => [] where
  slot := fun _ => calls_of_leaf rfl rfl
  wildcard := fun _ _ => by
    rw [calls_of_children rfl]
    simp [children]
  member := fun _ _ _ => by
    rw [calls_of_children rfl]
    simp [children]
  index := fun _ _ _ => by
    rw [calls_of_children rfl]
    simp [children]
  call := fun name ignoreCase position count =>
    ⟨[⟨name, count, ignoreCase, position⟩], fun arguments hlength _ => by
      rw [calls_eq, ← hlength]
      rfl⟩
  unary := fun _ _ => by
    rw [calls_of_children rfl]
    simp [children]
  binary := fun _ _ _ _ _ => by
    rw [calls_of_children rfl]
    simp [children]

-- A wildcard that is pulled out takes the calls of its collection along.
theorem calls_ranging {n : Nat} {e : Expr} {p : Pulled Expr} (h : ranging n e = some p) :
    (p.collection.calls ++ p.body.calls).Perm e.calls := gathers_calls.ranging h

-- Binding names leaves the calls as they are.
theorem calls_bind (names : Names) (e : Expr) : (e.bind names).calls = e.calls := by
  induction e using childInduction with
  | step e ih =>
      have hown : (e.bind names).ownCalls = e.ownCalls := by
        cases e with
        | property name =>
            rw [bind]
            cases names.slot? name <;> rfl
        | call name arguments ignoreCase position =>
            simp only [bind, ownCalls, bindAll_eq_map, List.length_map]
        | conditional condition consequent alternative => cases alternative <;> rfl
        | _ => simp only [bind, ownCalls]
      have hcalls : e.children.map (fun c => (c.bind names).calls) = e.children.map calls :=
        List.map_congr_left ih
      rw [calls_eq, calls_eq e, hown, children_bind, List.flatMap_map, List.flatMap_def,
        List.flatMap_def, hcalls]

end Expr

end EventText
