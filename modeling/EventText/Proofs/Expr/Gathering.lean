import EventText.Proofs.Expr.Pulling

namespace EventText.Expr

-- What is gathered from all parts of an expression. A wildcard adds what `own` says, and the node
-- around a path or an operand adds the same whatever the path or the operand is. The properties of
-- the event are no path that a wildcard is pulled out of, and may be treated in another way.
structure Gathers {α : Type} (gather : Expr → List α) (own : Quantifier → List α) : Prop where
  slot : ∀ n, gather (.slot n) = []
  wildcard : ∀ target q, gather (.wildcard target q) = own q ++ gather target
  member : ∀ target name, (∀ p, target ≠ .builtin p) →
    gather (.member target name) = gather target
  index : ∀ target key, (∀ p, target ≠ .builtin p) →
    gather (.index target key) = gather target ++ gather key
  call : ∀ name ignoreCase position count, ∃ front, ∀ arguments : List Expr,
    arguments.length = count → arguments ≠ [] →
      gather (.call name arguments ignoreCase position) = front ++ arguments.flatMap gather
  unary : ∀ op operand, gather (.unary op operand) = gather operand
  binary : ∀ op left right ignoreCase position,
    gather (.binary op left right ignoreCase position) = gather left ++ gather right

theorem ne_builtin_of_pull {n : Nat} {e : Expr} {p : Pulled Expr} (h : pull n e = some p) :
    (∀ b, e ≠ .builtin b) ∧ ∀ b, p.body ≠ .builtin b := by
  cases e with
  | wildcard target q =>
      unfold pull at h
      split at h <;> cases h <;> simp [Pulled.map]
  | member target name =>
      obtain ⟨inner, -, rfl⟩ := Option.map_eq_some_iff.mp h
      simp [Pulled.map]
  | index target key =>
      obtain ⟨inner, -, rfl⟩ := Option.map_eq_some_iff.mp h
      simp [Pulled.map]
  | _ => cases h

theorem length_pullFirst {n : Nat} {es : List Expr} {p : Pulled (List Expr)}
    (h : pullFirst n es = some p) : p.body.length = es.length ∧ es ≠ [] := by
  fun_induction pullFirst n es generalizing p with
  | case1 => cases h
  | case2 e rest inner hinner =>
      cases h
      exact ⟨rfl, List.cons_ne_nil _ _⟩
  | case3 e rest hnone ih =>
      obtain ⟨inner, hinner, rfl⟩ := Option.map_eq_some_iff.mp h
      exact ⟨congrArg (· + 1) (ih hinner).1, List.cons_ne_nil _ _⟩

namespace Gathers

variable {α : Type} {gather : Expr → List α} {own : Quantifier → List α}
  (hgather : Gathers gather own)
include hgather

-- A wildcard that is pulled out takes along what its collection has. What is left has the rest, so
-- that nothing is lost and nothing is there twice.

theorem pull {n : Nat} {e : Expr} {p : Pulled Expr} (h : pull n e = some p) :
    (own p.quantifier ++ gather p.collection ++ gather p.body).Perm (gather e) := by
  fun_induction Expr.pull n e generalizing p with
  | case1 target q inner hinner ih =>
      cases h
      have hperm := (ih hinner).append_left (own q)
      simp only [Pulled.map, hgather.wildcard]
      exact (List.perm_append_comm_assoc _ _ _).trans hperm
  | case2 target q hinner =>
      cases h
      rw [hgather.slot, List.append_nil, hgather.wildcard]
  | case3 target name ih =>
      obtain ⟨inner, hinner, rfl⟩ := Option.map_eq_some_iff.mp h
      obtain ⟨htarget, hbody⟩ := ne_builtin_of_pull hinner
      simp only [Pulled.map, hgather.member _ _ htarget, hgather.member _ _ hbody]
      exact ih hinner
  | case4 target key ih =>
      obtain ⟨inner, hinner, rfl⟩ := Option.map_eq_some_iff.mp h
      obtain ⟨htarget, hbody⟩ := ne_builtin_of_pull hinner
      simp only [Pulled.map, hgather.index _ _ htarget, hgather.index _ _ hbody]
      rw [← List.append_assoc]
      exact (ih hinner).append_right _
  | case5 => cases h

theorem pullFirst {n : Nat} {es : List Expr} {p : Pulled (List Expr)}
    (h : pullFirst n es = some p) :
    (own p.quantifier ++ gather p.collection ++ p.body.flatMap gather).Perm
      (es.flatMap gather) := by
  fun_induction Expr.pullFirst n es generalizing p with
  | case1 => cases h
  | case2 e rest inner hinner =>
      cases h
      simp only [Pulled.map, List.flatMap_cons]
      rw [← List.append_assoc]
      exact (hgather.pull hinner).append_right _
  | case3 e rest hnone ih =>
      obtain ⟨inner, hinner, rfl⟩ := Option.map_eq_some_iff.mp h
      simp only [Pulled.map, List.flatMap_cons]
      exact (List.perm_append_comm_assoc _ _ _).trans ((ih hinner).append_left _)

theorem pullEither {n : Nat} {left right : Expr} {p : Pulled (Expr × Expr)}
    (h : pullEither n left right = some p) :
    (own p.quantifier ++ gather p.collection ++ (gather p.body.1 ++ gather p.body.2)).Perm
      (gather left ++ gather right) := by
  unfold Expr.pullEither at h
  split at h
  · rename_i inner hinner
    cases h
    simp only [Pulled.map]
    rw [← List.append_assoc]
    exact (hgather.pull hinner).append_right _
  · obtain ⟨inner, hinner, rfl⟩ := Option.map_eq_some_iff.mp h
    simp only [Pulled.map]
    exact (List.perm_append_comm_assoc _ _ _).trans ((hgather.pull hinner).append_left _)

theorem ranging {n : Nat} {e : Expr} {p : Pulled Expr} (h : ranging n e = some p) :
    (own p.quantifier ++ gather p.collection ++ gather p.body).Perm (gather e) := by
  cases e with
  | call name arguments ignoreCase position =>
      obtain ⟨inner, hinner, rfl⟩ := Option.map_eq_some_iff.mp h
      obtain ⟨hlength, hne⟩ := length_pullFirst hinner
      have hbody : inner.body ≠ [] := by
        rw [← List.length_pos_iff, hlength]
        exact List.length_pos_iff.mpr hne
      obtain ⟨front, hfront⟩ := hgather.call name ignoreCase position arguments.length
      simp only [Pulled.map, hfront _ rfl hne, hfront _ hlength hbody]
      exact (List.perm_append_comm_assoc _ _ _).trans ((hgather.pullFirst hinner).append_left _)
  | unary op operand =>
      obtain ⟨inner, hinner, rfl⟩ := Option.map_eq_some_iff.mp h
      simp only [Pulled.map, hgather.unary]
      exact hgather.pull hinner
  | binary op left right ignoreCase position =>
      obtain ⟨inner, hinner, rfl⟩ := Option.map_eq_some_iff.mp h
      simp only [Pulled.map, hgather.binary]
      exact hgather.pullEither hinner
  | _ => exact hgather.pull (n := n) h

end Gathers

end EventText.Expr
