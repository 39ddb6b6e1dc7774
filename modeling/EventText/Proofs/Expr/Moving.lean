import EventText.Proofs.Expr.Binding
import EventText.Proofs.Expr.Positions
import EventText.Proofs.Expr.Resolving

namespace EventText

-- An expression stands where it does only for its errors.

theorem Call.target_mapPosition (resolver : Resolver) (f : Nat → Nat) (call : Call) :
    (call.mapPosition f).target resolver = call.target resolver := rfl

namespace Expr

variable {f : Nat → Nat}

theorem children_mapPositions (f : Nat → Nat) (e : Expr) :
    (e.mapPositions f).children = e.children.map (mapPositions f) := by
  cases e with
  | call name arguments ignoreCase position => simp [mapPositions, children]
  | conditional condition consequent alternative => cases alternative <;> simp [children]
  | array elements => simp [mapPositions, children, Function.comp_def]
  | object members => simp [mapPositions, children, Function.comp_def]
  | _ => simp [mapPositions, children]

theorem calls_mapPositions (f : Nat → Nat) (e : Expr) :
    (e.mapPositions f).calls = e.calls.map (Call.mapPosition f) := by
  induction e using childInduction with
  | step e ih =>
      have hown : (e.mapPositions f).ownCalls = e.ownCalls.map (Call.mapPosition f) := by
        cases e with
        | call name arguments ignoreCase position => simp [mapPositions, ownCalls, Call.mapPosition]
        | conditional condition consequent alternative => cases alternative <;> rfl
        | _ => rfl
      have hcalls : e.children.map (fun c => (c.mapPositions f).calls)
          = e.children.map fun c => c.calls.map (Call.mapPosition f) := List.map_congr_left ih
      rw [calls_eq, calls_eq e, hown, children_mapPositions, List.flatMap_map, List.map_append,
        List.map_flatMap, List.flatMap_def, hcalls, List.flatMap_def]

-- What occurs in an expression elsewhere occurs in it here.
theorem exists_occurs_of_mapPositions {part e : Expr} (h : part.Occurs (e.mapPositions f)) :
    ∃ here : Expr, here.Occurs e ∧ part = here.mapPositions f := by
  induction e using childInduction with
  | step e ih =>
      rcases occurs_iff.mp h with rfl | ⟨c, hc, hdeep⟩
      · exact ⟨e, .here, rfl⟩
      · rw [children_mapPositions] at hc
        obtain ⟨source, hsource, rfl⟩ := List.mem_map.mp hc
        obtain ⟨here, hhere, rfl⟩ := ih source hsource hdeep
        exact ⟨here, .inside hsource hhere, rfl⟩

theorem mapPositions_eq_property {e : Expr} {name : String} :
    e.mapPositions f = .property name ↔ e = .property name := by
  cases e with
  | conditional condition consequent alternative => cases alternative <;> simp
  | _ => simp [mapPositions]

theorem occurs_property_mapPositions {e : Expr} {name : String}
    (h : (Expr.property name).Occurs (e.mapPositions f)) : (Expr.property name).Occurs e := by
  obtain ⟨here, hhere, heq⟩ := exists_occurs_of_mapPositions h
  obtain rfl := mapPositions_eq_property.mp heq.symm
  exact hhere

theorem Slotless.mapPositions {e : Expr} (h : e.Slotless) (f : Nat → Nat) :
    (e.mapPositions f).Slotless := by
  intro n hn
  obtain ⟨here, hhere, heq⟩ := exists_occurs_of_mapPositions hn
  cases here with
  | slot m => exact h m hhere
  | conditional condition consequent alternative => cases alternative <;> simp at heq
  | _ => simp [Expr.mapPositions] at heq

variable {within : Surroundings} {env : Environment}

private theorem passAll_mapPositions {es : List Expr}
    (h : ∀ e ∈ es, ∀ operation,
      (e.mapPositions f).pass within env operation = e.pass within env operation)
    (operation : List Outcome → Outcome) :
    passAll within env (es.map (mapPositions f)) operation = passAll within env es operation := by
  induction es generalizing operation with
  | nil => rfl
  | cons e rest ih =>
      have hrest := ih fun other hother => h other (List.mem_cons_of_mem _ hother)
      simp only [List.map_cons, passAll, h e List.mem_cons_self, hrest]

private theorem passElements_mapPositions {elements : List (Element Expr)}
    (h : ∀ e ∈ elements.map Element.content, ∀ operation,
      (e.mapPositions f).pass within env operation = e.pass within env operation) :
    passElements within env (elements.map (Element.map (mapPositions f)))
      = passElements within env elements := by
  induction elements with
  | nil => rfl
  | cons element rest ih =>
      have hrest := ih fun other hother => h other (List.mem_cons_of_mem _ hother)
      have hfirst := h element.content (by simp)
      cases element <;>
        simp only [Element.content] at hfirst <;>
        simp only [List.map_cons, Element.map, passElements, hfirst, hrest]

private theorem passMembers_mapPositions {members : List (Member Expr)}
    (h : ∀ e ∈ members.map Member.content, ∀ operation,
      (e.mapPositions f).pass within env operation = e.pass within env operation) :
    passMembers within env (members.map (Member.map (mapPositions f)))
      = passMembers within env members := by
  induction members with
  | nil => rfl
  | cons member rest ih =>
      have hrest := ih fun other hother => h other (List.mem_cons_of_mem _ hother)
      have hfirst := h member.content (by simp)
      cases member <;>
        simp only [Member.content] at hfirst <;>
        simp only [List.map_cons, Member.map, passMembers, hfirst, hrest]

theorem pass_mapPositions (f : Nat → Nat) (e : Expr) (operation : Outcome → Outcome) :
    (e.mapPositions f).pass within env operation = e.pass within env operation := by
  induction e using childInduction generalizing operation with
  | step e ih =>
      cases e with
      | call name arguments ignoreCase position =>
          have hisRest : Surroundings.isRest name (arguments.map (mapPositions f)) ignoreCase
              = Surroundings.isRest name arguments ignoreCase := by
            cases arguments <;> rfl
          have hall : passAll within env (arguments.map (mapPositions f))
              = passAll within env arguments := funext (passAll_mapPositions ih)
          simp only [mapPositions, mapPositionsAll_eq_map, pass, hisRest, hall]
      | array elements =>
          simp only [mapPositions, mapPositionsElements_eq_map, pass,
            passElements_mapPositions ih]
      | object members =>
          simp only [mapPositions, mapPositionsMembers_eq_map, pass, passMembers_mapPositions ih]
      | conditional condition consequent alternative =>
          cases alternative <;> simp_all [children, mapPositions, pass]
      | _ => simp_all [children, mapPositions, pass]

theorem meaning_mapPositions (within : Surroundings) (env : Environment) (f : Nat → Nat)
    (e : Expr) : (e.mapPositions f).meaning within env = e.meaning within env :=
  pass_mapPositions f e id

end Expr

namespace Surroundings

variable {within other : Surroundings}

-- What could be compiled once can be compiled elsewhere too, and with other slots.
theorem exists_lower_mapPositions (hresolver : other.resolver = within.resolver) {e : Expr}
    {names : Names} {free freeAfter : Nat} {plan : Plan}
    (h : within.lower (e.bind names) free = .ok (plan, freeAfter)) (f : Nat → Nat)
    (names' : Names) (free' : Nat) :
    ∃ plan' freeAfter',
      other.lower ((e.mapPositions f).bind names') free' = .ok (plan', freeAfter') := by
  have hresolves := resolves_of_lower h
  rw [Expr.calls_bind] at hresolves
  refine exists_lower (fun call hcall => ?_) free'
  rw [Expr.calls_bind, Expr.calls_mapPositions] at hcall
  obtain ⟨here, hhere, rfl⟩ := List.mem_map.mp hcall
  rw [Call.target_mapPosition, hresolver]
  exact hresolves here hhere

end Surroundings

end EventText
