import EventText.Template.Render

namespace EventText.Node

-- Nodes are nested through lists, options and pairs. What is shown of the nodes directly inside a
-- node is shown of the node.
def parts : Node → List Node
  | .sequence nodes => nodes
  | .choice branches otherwise => branches.map (·.2) ++ otherwise.toList
  | .iteration _ _ _ body delimiter alternative =>
      body :: delimiter.toList ++ alternative.toList
  | _ => []

private theorem sizeOf_toList {node : Node} {part : Option Node} (h : node ∈ part.toList) :
    sizeOf node < sizeOf part := by
  obtain rfl := Option.mem_toList.mp h
  simp

theorem sizeOf_part {part node : Node} (h : part ∈ node.parts) : sizeOf part < sizeOf node := by
  cases node with
  | sequence nodes =>
      have hmem : sizeOf part < sizeOf nodes := List.sizeOf_lt_of_mem h
      simp only [sequence.sizeOf_spec]
      omega
  | choice branches otherwise =>
      simp only [choice.sizeOf_spec]
      rcases List.mem_append.mp h with hbranch | hotherwise
      · obtain ⟨⟨condition, node⟩, hmem, rfl⟩ := List.mem_map.mp hbranch
        have hlt := List.sizeOf_lt_of_mem hmem
        simp only [Prod.mk.sizeOf_spec] at hlt ⊢
        omega
      · have hlt := sizeOf_toList hotherwise
        omega
  | iteration collection first second body delimiter alternative =>
      simp only [iteration.sizeOf_spec]
      rcases List.mem_append.mp h with hinside | halternative
      · rcases List.mem_cons.mp hinside with rfl | hdelimiter
        · omega
        · have hlt := sizeOf_toList hdelimiter
          omega
      · have hlt := sizeOf_toList halternative
        omega
  | _ => cases h

@[elab_as_elim]
theorem partInduction {P : Node → Prop} (step : ∀ node, (∀ part ∈ node.parts, P part) → P node)
    (node : Node) : P node :=
  step node fun part h =>
    have := sizeOf_part h
    partInduction step part
termination_by sizeOf node

end EventText.Node
