import EventText.Proofs.Template.Parts

namespace EventText

-- A property of writers, each seen in several looks at once: it holds of writing nothing, and of
-- writing one thing behind another if it holds of both.
structure Buffer.Composable {ι : Type} (P : (ι → Buffer → Buffer) → Prop) : Prop where
  nothing : P fun _ b => b
  comp : ∀ {first second : ι → Buffer → Buffer}, P first → P second →
    P fun i b => second i (first i b)

namespace Node

-- Nodes that consist of other nodes write nothing of their own.
def IsLeaf : Node → Prop
  | .sequence _ | .choice _ _ | .iteration _ _ _ _ _ _ => False
  | _ => True

section

variable {ι : Type} {P : (ι → Buffer → Buffer) → Prop} (hP : Buffer.Composable P)

include hP

private theorem composed_writeRounds {body : Outcome × Outcome → ι → Buffer → Buffer}
    {between : ι → Buffer → Buffer} (hbody : ∀ round, P (body round)) (hbetween : P between)
    (rounds : List (Outcome × Outcome)) :
    P fun i => writeRounds (fun round => body round i) (between i) rounds := by
  induction rounds with
  | nil => exact hP.nothing
  | cons round rest ih =>
      cases rest with
      | nil => exact hbody round
      | cons next others =>
          have hround := hP.comp (hbody round) hbetween
          have hrounds := hP.comp hround ih
          exact hrounds

variable {looks : ι → Look} {scope : Scope}

private theorem composed_writeAll {nodes : List Node}
    (h : ∀ node ∈ nodes, P fun i => node.write (looks i) scope) :
    P fun i => writeAll (looks i) nodes scope := by
  induction nodes with
  | nil =>
      simp only [writeAll]
      exact hP.nothing
  | cons node rest ih =>
      simp only [writeAll]
      have hnode := h node List.mem_cons_self
      have hrest := ih fun other hother => h other (List.mem_cons_of_mem node hother)
      exact hP.comp hnode hrest

private theorem composed_writeSection {part : Option Node}
    (h : ∀ node ∈ part.toList, P fun i => node.write (looks i) scope) :
    P fun i => writeSection (looks i) part scope := by
  cases part with
  | none =>
      simp only [writeSection]
      exact hP.nothing
  | some node =>
      simp only [writeSection]
      exact h node (by simp)

omit hP in
-- Which branch is taken depends on no look.
private theorem composed_writeChoice {branches : List (Plan × Node)}
    {otherwise : ι → Buffer → Buffer}
    (h : ∀ branch ∈ branches, P fun i => branch.2.write (looks i) scope)
    (hotherwise : P otherwise) :
    P fun i => writeChoice (looks i) branches (otherwise i) scope := by
  induction branches with
  | nil =>
      simp only [writeChoice]
      exact hotherwise
  | cons branch rest ih =>
      obtain ⟨condition, node⟩ := branch
      simp only [writeChoice]
      cases (condition.eval scope).isTrue with
      | true => exact h (condition, node) List.mem_cons_self
      | false => exact ih fun other hother => h other (List.mem_cons_of_mem _ hother)

-- What holds of the leaves in all scopes holds of the whole tree.
theorem composed_write (looks : ι → Look) (leaf : ∀ node : Node, node.IsLeaf → ∀ scope,
      P fun i => node.write (looks i) scope) (node : Node) (scope : Scope) :
    P fun i => node.write (looks i) scope := by
  induction node using partInduction generalizing scope with
  | step node ih =>
      cases node with
      | sequence nodes =>
          simp only [write]
          exact composed_writeAll hP fun part hpart => ih part hpart scope
      | choice branches otherwise =>
          simp only [write]
          refine composed_writeChoice (fun branch hbranch => ?_)
            (composed_writeSection hP fun part hpart => ?_)
          · exact ih branch.2 (List.mem_append_left _ (List.mem_map_of_mem hbranch)) scope
          · exact ih part (List.mem_append_right _ hpart) scope
      | iteration collection first second body delimiter alternative =>
          have hsections : ∀ part ∈ delimiter.toList ++ alternative.toList,
              P fun i => part.write (looks i) scope := fun part hpart =>
            ih part (by simpa [parts] using .inr (by simpa using hpart)) scope
          simp only [write]
          cases ((collection.eval scope).value?.map Value.rounds).getD [] with
          | nil =>
              exact composed_writeSection hP fun part hpart =>
                hsections part (List.mem_append_right _ hpart)
          | cons round rest =>
              have hbody (round) : P fun i =>
                  body.write (looks i) (bindRound scope first second round) :=
                ih body (by simp [parts]) _
              refine composed_writeRounds hP hbody ?_ _
              exact composed_writeSection hP fun part hpart =>
                hsections part (List.mem_append_left _ hpart)
      | _ => exact leaf _ (by trivial) scope

end

end Node

end EventText
